import CodeSearch.Text.Split
import Mathlib.Data.List.TakeDrop

/-!
# Pieces of a text

`IsPiece` says without any algorithm what a piece of a text is, and `mem_splitWhere_iff` that cutting
yields just those.  For paths, cutting at slashes undoes joining with slashes (`segments_intercalate`),
and putting a slash between two texts puts their segments together (`segments_slash`); a path ends as its
last segment does (`exists_segments_concat`).
-/

namespace CodeSearch.Text

variable {α : Type}

/-- `piece` stands in `text` between two cuts or the ends, and there is no cut in it. -/
def IsPiece (cut : α → Bool) (piece text : List α) : Prop :=
  ∃ before after, text = before ++ piece ++ after ∧ (∀ a ∈ piece, cut a = false) ∧
    (∀ a ∈ before.getLast?, cut a = true) ∧ (∀ a ∈ after.head?, cut a = true)

/-- A piece without further cuts is one for more cuts as well. -/
theorem IsPiece.mono {cut others : α → Bool} {piece text : List α} (h : IsPiece cut piece text)
    (hcut : ∀ a, cut a = true → others a = true) (hpiece : ∀ a ∈ piece, others a = false) :
    IsPiece others piece text := by
  obtain ⟨before, after, htext, -, hbefore, hafter⟩ := h
  exact ⟨before, after, htext, hpiece, fun a ha => hcut a (hbefore a ha),
    fun a ha => hcut a (hafter a ha)⟩

/-- Cutting at a given cut splits a text in two. -/
theorem splitWhere_append_cons {cut : α → Bool} {a : α} (ha : cut a = true)
    (first rest : List α) :
    splitWhere cut (first ++ a :: rest) = splitWhere cut first ++ splitWhere cut rest := by
  induction first with
  | nil => simp [splitWhere, ha]
  | cons b first ih =>
    rw [List.cons_append, splitWhere, splitWhere, ih]
    by_cases hb : cut b = true
    · simp [hb]
    · cases hfirst : splitWhere cut first with
      | nil => exact absurd hfirst (splitWhere_ne_nil cut first)
      | cons run runs => simp [hb]

/-- What is put in front of a text without a cut belongs to its first piece. -/
theorem splitWhere_append_of_free {cut : α → Bool} {first rest run : List α} {runs : List (List α)}
    (h : ∀ a ∈ first, cut a = false) (hrest : splitWhere cut rest = run :: runs) :
    splitWhere cut (first ++ rest) = (first ++ run) :: runs := by
  induction first with
  | nil => exact hrest
  | cons a first ih =>
    rw [List.cons_append, splitWhere, if_neg (by simp [h a (by simp)]),
      ih fun b hb => h b (by simp [hb])]
    rfl

/-- A text that has a cut, divided at its first one. -/
theorem exists_first_cut {cut : α → Bool} {text : List α} (h : ∃ a ∈ text, cut a = true) :
    ∃ first a rest, text = first ++ a :: rest ∧ (∀ b ∈ first, cut b = false) ∧ cut a = true := by
  induction text with
  | nil => simp at h
  | cons b text ih =>
    by_cases hb : cut b = true
    · exact ⟨[], b, text, rfl, by simp, hb⟩
    · obtain ⟨a, ha, hcut⟩ := h
      rcases List.mem_cons.1 ha with rfl | ha
      · exact absurd hcut hb
      · obtain ⟨first, c, rest, rfl, hfirst, hc⟩ := ih ⟨a, ha, hcut⟩
        refine ⟨b :: first, c, rest, rfl, ?_, hc⟩
        intro d hd
        rcases List.mem_cons.1 hd with rfl | hd
        · simpa using hb
        · exact hfirst d hd

theorem isPiece_of_mem {cut : α → Bool} {piece : List α} (text : List α)
    (h : piece ∈ splitWhere cut text) : IsPiece cut piece text := by
  by_cases hcut : ∃ a ∈ text, cut a = true
  · obtain ⟨first, a, rest, heq, hfirst, ha⟩ := exists_first_cut hcut
    have hlen : rest.length < text.length := by
      rw [heq]
      simp
      omega
    subst heq
    rw [splitWhere_append hfirst ha] at h
    -- the piece ends at the first cut, or it is a piece of what follows
    rcases List.mem_cons.1 h with rfl | h
    · exact ⟨[], a :: rest, by simp, hfirst, by simp, by simpa using ha⟩
    · obtain ⟨before, after, rfl, hpiece, hbefore, hafter⟩ := isPiece_of_mem rest h
      refine ⟨first ++ a :: before, after, by simp, hpiece, ?_, hafter⟩
      intro b hb
      cases before with
      | nil =>
        rw [List.getLast?_concat, Option.mem_some_iff] at hb
        exact hb ▸ ha
      | cons c before =>
        rw [List.getLast?_append, List.getLast?_cons_cons] at hb
        exact hbefore b (by simpa using hb)
  · have hfree : ∀ a ∈ text, cut a = false := by
      intro a ha
      simpa using fun hc => hcut ⟨a, ha, hc⟩
    rw [splitWhere_eq_singleton hfree, List.mem_singleton] at h
    subst h
    exact ⟨[], [], by simp, hfree, by simp, by simp⟩
termination_by text.length

theorem mem_of_isPiece {cut : α → Bool} {piece text : List α} (h : IsPiece cut piece text) :
    piece ∈ splitWhere cut text := by
  obtain ⟨before, after, rfl, hpiece, hbefore, hafter⟩ := h
  have htail : piece ∈ splitWhere cut (piece ++ after) := by
    cases after with
    | nil => simp [splitWhere_eq_singleton hpiece]
    | cons a after => simp [splitWhere_append hpiece (hafter a (by simp))]
  rcases List.eq_nil_or_concat before with rfl | ⟨init, a, rfl⟩
  · exact htail
  · have ha : cut a = true := hbefore a (by simp)
    rw [List.append_assoc, List.concat_eq_append, List.append_assoc, List.singleton_append,
      splitWhere_append_cons ha]
    exact List.mem_append_right _ htail

/-- Cutting yields exactly the pieces. -/
theorem mem_splitWhere_iff {cut : α → Bool} {piece text : List α} :
    piece ∈ splitWhere cut text ↔ IsPiece cut piece text :=
  ⟨isPiece_of_mem text, mem_of_isPiece⟩

theorem mem_pieces_iff {cut : Char → Bool} {piece text : String} :
    piece ∈ pieces cut text ↔ IsPiece cut piece.toList text.toList := by
  rw [← mem_splitWhere_iff, pieces, List.mem_map]
  constructor
  · rintro ⟨run, hrun, rfl⟩
    rwa [String.toList_ofList]
  · intro h
    exact ⟨piece.toList, h, String.ofList_toList⟩

/-- A slash that is a cut puts the pieces of the texts around it together. -/
theorem pieces_slash {cut : Char → Bool} (hcut : cut '/' = true) (first rest : String) :
    pieces cut (first ++ "/" ++ rest) = pieces cut first ++ pieces cut rest := by
  have htext : (first ++ "/" ++ rest).toList = first.toList ++ '/' :: rest.toList := by simp
  rw [pieces, htext, splitWhere_append_cons hcut, List.map_append]
  rfl

/-- A text without cuts is its only piece. -/
theorem pieces_eq_singleton {cut : Char → Bool} {text : String}
    (h : ∀ c ∈ text.toList, cut c = false) : pieces cut text = [text] := by
  rw [pieces, splitWhere_eq_singleton h]
  simp

/-! ## Dividing a text at an element -/

section Span

variable [DecidableEq α] {c : α} {before text : List α}

/-- Up to a character there is what stands before its first occurrence. -/
theorem span_ne_append (h : c ∉ before) (after : List α) :
    (before ++ c :: after).span (fun d => d ≠ c) = (before, c :: after) := by
  have hpass : ∀ d ∈ before, decide (d ≠ c) = true := by
    intro d hd
    simpa using fun heq : d = c => h (heq ▸ hd)
  rw [List.span_eq_takeWhile_dropWhile, List.takeWhile_append_of_pos hpass,
    List.dropWhile_append_of_pos hpass]
  simp

/-- Up to a character that does not occur there is the whole text. -/
theorem span_ne_of_notMem (h : c ∉ text) : text.span (fun d => d ≠ c) = (text, []) := by
  have hpass : ∀ d ∈ text, decide (d ≠ c) = true := by
    intro d hd
    simpa using fun heq : d = c => h (heq ▸ hd)
  rw [List.span_eq_takeWhile_dropWhile, ← List.append_nil text, List.takeWhile_append_of_pos hpass,
    List.dropWhile_append_of_pos hpass]
  simp

/-- A text is divided at the first occurrence of a character. -/
theorem eq_of_span_ne {d : α} {after : List α}
    (h : text.span (fun d => d ≠ c) = (before, d :: after)) :
    c ∉ before ∧ text = before ++ c :: after := by
  by_cases hc : c ∈ text
  · obtain ⟨first, rest, rfl, hfirst⟩ := List.eq_append_cons_of_mem hc
    rw [span_ne_append hfirst, Prod.mk.injEq, List.cons.injEq] at h
    obtain ⟨rfl, rfl, rfl⟩ := h
    exact ⟨hfirst, rfl⟩
  · rw [span_ne_of_notMem hc] at h
    cases h

end Span

/-! ## Segments -/

theorem segments_slash (first rest : String) :
    segments (first ++ "/" ++ rest) = segments first ++ segments rest :=
  pieces_slash rfl first rest

/-- A text without slashes is its only segment. -/
theorem segments_eq_singleton {name : String} (h : '/' ∉ name.toList) : segments name = [name] := by
  refine pieces_eq_singleton fun c hc => ?_
  rw [beq_eq_false_iff_ne]
  rintro rfl
  exact h hc

/-- Cutting at slashes undoes joining with slashes. -/
theorem segments_intercalate {names : List String} (hne : names ≠ [])
    (h : ∀ name ∈ names, '/' ∉ name.toList) : segments ("/".intercalate names) = names := by
  induction names with
  | nil => exact absurd rfl hne
  | cons name rest ih =>
    have hname := segments_eq_singleton (h name (by simp))
    by_cases hrest : rest = []
    · rw [hrest, String.intercalate_singleton, hname]
    · rw [String.intercalate_cons_of_ne_nil hrest, segments_slash, hname,
        ih hrest fun other hother => h other (by simp [hother])]
      rfl

theorem segments_ne_nil (path : String) : segments path ≠ [] := by
  rw [segments, pieces, Ne, List.map_eq_nil_iff]
  exact splitWhere_ne_nil _ _

/-- No segment holds a slash. -/
theorem no_slash_of_mem_segments {path segment : String} (h : segment ∈ segments path) :
    '/' ∉ segment.toList := by
  obtain ⟨run, hrun, rfl⟩ := List.mem_map.1 h
  intro hslash
  have hcut := cut_eq_false_of_mem hrun (by simpa using hslash)
  simp at hcut

/-- A path that has a slash, divided at its first one. -/
theorem exists_first_slash {path : String} (h : '/' ∈ path.toList) :
    ∃ first rest, path = first ++ "/" ++ rest ∧ '/' ∉ first.toList := by
  have hcut : ∃ c ∈ path.toList, (fun c => c == '/') c = true := ⟨'/', h, rfl⟩
  obtain ⟨first, c, rest, heq, hfirst, hc⟩ := exists_first_cut hcut
  obtain rfl : c = '/' := beq_iff_eq.1 hc
  refine ⟨String.ofList first, String.ofList rest, ?_, ?_⟩
  · rw [← String.toList_inj, heq]
    simp
  · rw [String.toList_ofList]
    intro hslash
    exact absurd (hfirst '/' hslash) (by decide)

/-- Joining with slashes undoes cutting at slashes. -/
theorem intercalate_segments (path : String) : "/".intercalate (segments path) = path := by
  by_cases hslash : '/' ∈ path.toList
  · obtain ⟨first, rest, heq, hfirst⟩ := exists_first_slash hslash
    have hshorter : rest.toList.length < path.toList.length := by
      rw [heq]
      simp
      omega
    have hrest := intercalate_segments rest
    rw [heq, segments_slash, segments_eq_singleton hfirst, List.singleton_append,
      String.intercalate_cons_of_ne_nil (segments_ne_nil rest), hrest]
  · rw [segments_eq_singleton hslash, String.intercalate_singleton]
termination_by path.toList.length

/-- A character of joined texts is a slash or stands in one of them. -/
theorem mem_toList_intercalate {names : List String} {c : Char}
    (h : c ∈ ("/".intercalate names).toList) : c = '/' ∨ ∃ name ∈ names, c ∈ name.toList := by
  induction names with
  | nil => simp at h
  | cons name rest ih =>
    by_cases hlast : rest = []
    · rw [hlast, String.intercalate_singleton] at h
      exact .inr ⟨name, by simp, h⟩
    · rw [String.intercalate_cons_of_ne_nil hlast, String.toList_append, String.toList_append,
        List.mem_append, List.mem_append] at h
      rcases h with (hname | hslash) | hrest
      · exact .inr ⟨name, by simp, hname⟩
      · exact .inl (by simpa using hslash)
      · exact (ih hrest).imp_right fun ⟨other, hother, hc⟩ => ⟨other, by simp [hother], hc⟩

/-! ## Endings -/

/-- An ending without slashes is an ending of what follows the last slash. -/
theorem suffix_of_suffix_slash {ending first rest : List Char} (hfree : '/' ∉ ending)
    (h : ending <:+ first ++ '/' :: rest) : ending <:+ rest := by
  rcases List.suffix_or_suffix_of_suffix h (List.suffix_append first ('/' :: rest)) with h | h
  · rcases List.suffix_cons_iff.1 h with rfl | h
    · exact absurd (List.mem_cons_self ..) hfree
    · exact h
  · exact absurd (h.subset (List.mem_cons_self ..)) hfree

/-- A path ends as its last segment does. -/
theorem exists_segments_concat {ending path : String} (hfree : '/' ∉ ending.toList)
    (h : ending.toList <:+ path.toList) :
    ∃ before last, segments path = before ++ [last] ∧ ending.toList <:+ last.toList := by
  by_cases hslash : '/' ∈ path.toList
  · obtain ⟨first, rest, heq, -⟩ := exists_first_slash hslash
    have hlist : path.toList = first.toList ++ '/' :: rest.toList := by
      rw [heq]
      simp
    have hshorter : rest.toList.length < path.toList.length := by
      rw [hlist, List.length_append, List.length_cons]
      omega
    have hrest : ending.toList <:+ rest.toList := suffix_of_suffix_slash hfree (hlist ▸ h)
    obtain ⟨before, last, hsegments, hlast⟩ := exists_segments_concat hfree hrest
    exact ⟨segments first ++ before, last, by rw [heq, segments_slash, hsegments, List.append_assoc],
      hlast⟩
  · exact ⟨[], path, segments_eq_singleton hslash, h⟩
termination_by path.toList.length

/-- Joined names end with the last one. -/
theorem suffix_intercalate_concat (names : List String) (last : String) :
    last.toList <:+ ("/".intercalate (names ++ [last])).toList := by
  induction names with
  | nil => simp
  | cons name rest ih =>
    rw [List.cons_append, String.intercalate_cons_of_ne_nil (by simp), String.toList_append]
    exact ih.trans (List.suffix_append _ _)

end CodeSearch.Text
