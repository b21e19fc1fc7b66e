import CodeSearch.Proofs.Path

/-!
# Folded paths as texts

The text of a folded path folds back to it (`Folded.IsReduced.ofPath_render`), so that `normal` writes
one text for all the spellings of a place.  With this every question about folded texts is one about
`Folded` values: `root_relative_paths_exact` says what folding leaves, what a path from a root is made
of, and that putting it below the root takes it back.
-/

namespace CodeSearch.Path

/-! ## What a text folds to -/

/-- A folded path as texts fold to them: the top of the tree is left by no `..`, and what follows are
names of entries. -/
structure Folded.IsReduced (f : Folded) : Prop where
  /-- The top of the tree is its own parent. -/
  top : f.absolute = true → f.ups = 0
  /-- What the `..` are followed by are names. -/
  single : ∀ name ∈ f.names, IsEntryName name

namespace Folded

theorem foldl_step_absolute (way : List OsText) (f : Folded) :
    (way.foldl step f).absolute = f.absolute := by
  induction way generalizing f with
  | nil => rfl
  | cons segment rest ih =>
    rw [List.foldl_cons, ih]
    grind [step, up]

/-- Nothing leads out of the top of the tree. -/
theorem foldl_step_ups {f : Folded} (h : f.absolute = true) (way : List OsText) :
    (way.foldl step f).ups = f.ups := by
  induction way generalizing f with
  | nil => rfl
  | cons segment rest ih =>
    have hstep : (f.step segment).absolute = true ∧ (f.step segment).ups = f.ups := by
      grind [step, up]
    rw [List.foldl_cons, ih hstep.1, hstep.2]

theorem isReduced_ofPath (path : OsText) : (ofPath path).IsReduced where
  top := by
    intro h
    unfold ofPath at h ⊢
    rw [foldl_step_absolute] at h
    exact foldl_step_ups h _
  single _ := isEntryName_of_mem_ofPath

/-! ## The text of a folded path -/

/-- The segments that a folded path is written with. -/
def parts (f : Folded) : List OsText := List.replicate f.ups (".." : OsText) ++ f.names

theorem render_of_absolute {f : Folded} (h : f.absolute = true) :
    f.render = ("" : OsText) ++ "/" ++ .joined f.parts := by
  rw [render, h]
  rfl

theorem render_of_relative {f : Folded} (h : f.absolute = false) :
    f.render = .joined f.parts := by
  rw [render, h]
  exact OsText.empty_append _

/-- Folding the segments of joined parts is folding the parts. -/
theorem foldl_step_segments_joined {parts : List OsText}
    (h : ∀ part ∈ parts, slash ∉ part.bytes) (f : Folded) :
    (OsText.joined parts).segments.foldl step f = parts.foldl step f := by
  by_cases hne : parts = []
  · -- no parts are joined to the empty text, whose only segment is empty
    rw [hne]
    rfl
  · rw [OsText.segments_joined hne h]

theorem foldl_step_ups_replicate (ups : Nat) :
    (List.replicate ups (".." : OsText)).foldl step ⟨false, 0, []⟩ = ⟨false, ups, []⟩ := by
  induction ups with
  | zero => rfl
  | succ ups ih =>
    rw [List.replicate_succ', List.foldl_append, ih]
    rfl

namespace IsReduced

variable {f g : Folded}

theorem of_mem_parts (h : f.IsReduced) : ∀ part ∈ f.parts, part ≠ "" ∧ slash ∉ part.bytes := by
  intro part hpart
  rcases List.mem_append.1 hpart with hpart | hpart
  · rw [List.eq_of_mem_replicate hpart]
    decide
  · exact ⟨(h.single part hpart).ne_empty, (h.single part hpart).no_slash⟩

theorem parts_of_absolute (h : f.IsReduced) (habsolute : f.absolute = true) :
    f.parts = f.names := by
  rw [parts, h.top habsolute]
  rfl

/-- The segments that a folded path is written with fold to it. -/
theorem foldl_step_parts (h : f.IsReduced) : f.parts.foldl step ⟨f.absolute, 0, []⟩ = f := by
  cases habsolute : f.absolute with
  | true =>
    rw [h.parts_of_absolute habsolute, foldl_step_names h.single, ← h.top habsolute, ← habsolute]
    rfl
  | false =>
    rw [parts, List.foldl_append, foldl_step_ups_replicate, foldl_step_names h.single, ← habsolute]
    rfl

/-- The text of a folded path folds back to it. -/
theorem ofPath_render (h : f.IsReduced) : ofPath f.render = f := by
  have hfree : ∀ part ∈ f.parts, slash ∉ part.bytes := fun part hpart => (h.of_mem_parts part hpart).2
  have hparts := h.foldl_step_parts
  cases habsolute : f.absolute with
  | true =>
    rw [render_of_absolute habsolute, ofPath_slash, foldl_step_segments_joined hfree]
    rw [habsolute] at hparts
    exact hparts
  | false =>
    have hrelative : isAbsolute (OsText.joined f.parts) = false := by
      by_cases hne : f.parts = []
      · rw [hne]
        rfl
      · exact (isAbsolute_joined hne h.of_mem_parts).1
    rw [render_of_relative habsolute, ofPath, hrelative, foldl_step_segments_joined hfree]
    rw [habsolute] at hparts
    exact hparts

theorem isAbsolute_render (h : f.IsReduced) : isAbsolute f.render = f.absolute := by
  have hfold := foldl_step_absolute (f.render.segments) ⟨isAbsolute f.render, 0, []⟩
  rw [← ofPath, h.ofPath_render] at hfold
  exact hfold.symm

end IsReduced

end Folded

/-! ## Directories above a path -/

/-- The path of what some names lead to from the top of the tree. -/
def ofNames (names : List OsText) : OsText := Folded.render ⟨true, 0, names⟩

section Above

variable {names : List OsText} {name : OsText}

theorem ofPath_ofNames (h : ∀ name ∈ names, IsEntryName name) :
    Folded.ofPath (ofNames names) = ⟨true, 0, names⟩ :=
  Folded.IsReduced.ofPath_render ⟨fun _ => rfl, h⟩

theorem isAbsolute_ofNames (h : ∀ name ∈ names, IsEntryName name) :
    isAbsolute (ofNames names) = true :=
  Folded.IsReduced.isAbsolute_render ⟨fun _ => rfl, h⟩

/-- Nothing is above the top of the tree. -/
theorem parent?_ofNames_nil : parent? (ofNames []) = none := by decide

theorem selfAndAbove_ofNames_nil : selfAndAbove (ofNames []) = [ofNames []] := by decide

theorem parent?_ofNames_concat (h : ∀ other ∈ names ++ [name], IsEntryName other) :
    parent? (ofNames (names ++ [name])) = some (ofNames names) := by
  unfold parent?
  rw [ofPath_ofNames h]
  simp [Folded.up, ofNames]

/-- The directories above an entry are the one that holds it and those above that. -/
theorem selfAndAbove_ofNames_concat (h : ∀ other ∈ names ++ [name], IsEntryName other) :
    selfAndAbove (ofNames (names ++ [name])) =
      ofNames (names ++ [name]) :: selfAndAbove (ofNames names) := by
  have hnames : ∀ other ∈ names, IsEntryName other := fun other hother => h other (by simp [hother])
  unfold selfAndAbove
  rw [ofPath_ofNames h, ofPath_ofNames hnames]
  dsimp only
  rw [List.range_succ_eq_map, List.map_cons, List.map_map]
  refine congrArg₂ List.cons ?_ ?_
  · rw [Nat.sub_zero, List.take_length, ofNames]
  · rw [List.length_append, List.length_singleton]
    refine List.map_congr_left fun n _ => ?_
    rw [Function.comp_apply, Nat.succ_eq_add_one, Nat.add_sub_add_right,
      List.take_append_of_le_length (Nat.sub_le _ _)]

/-- What is above an absolute path is absolute. -/
theorem isAbsolute_of_mem_selfAndAbove {path directory : OsText} (h : isAbsolute path = true)
    (hdirectory : directory ∈ selfAndAbove path) : isAbsolute directory = true := by
  have hreduced := Folded.isReduced_ofPath path
  have habsolute : (Folded.ofPath path).absolute = true := by
    rw [Folded.ofPath, Folded.foldl_step_absolute, h]
  obtain ⟨n, -, rfl⟩ := List.mem_map.1 hdirectory
  have habove : (Folded.mk (Folded.ofPath path).absolute (Folded.ofPath path).ups
      ((Folded.ofPath path).names.take ((Folded.ofPath path).names.length - n))).IsReduced :=
    ⟨hreduced.top, fun name hname => hreduced.single name (List.mem_of_mem_take hname)⟩
  exact habove.isAbsolute_render.trans habsolute

end Above

/-! ## One text for every spelling -/

/-- The byte `0xFF` below a root is a name, and what can be decoded of it is another one. -/
example : segmentsBelow? "/r" ("/r/" ++ ⟨[0xff]⟩) = some ["\ufffd"] ∧
    normal ("/r/" ++ ⟨[0xff]⟩) = extend (normal "/r") [⟨[0xff]⟩] := by
  decide +kernel

end CodeSearch.Path
