import CodeSearch.Proofs.OsText

/-!
# Segments of paths

Cutting at slashes undoes joining with slashes (`segments_joined`) and the other way round
(`joined_segments`), and a slash between two texts puts their segments together (`segments_slash`).  The
segments of a text in its UTF-8 form are those of the text (`segments_ofText`).
-/

namespace CodeSearch.OsText

open CodeSearch.Text (splitWhere)

/-! ## Texts as bytes -/

theorem bytes_inj {first second : OsText} : first.bytes = second.bytes ↔ first = second :=
  ⟨congrArg mk, congrArg bytes⟩

theorem bytes_eq_nil_iff {text : OsText} : text.bytes = [] ↔ text = "" := @bytes_inj text ""

theorem lt_irrefl (text : OsText) : ¬ text < text := List.lt_irrefl text.bytes

instance : Std.Irrefl (α := OsText) (· < ·) := ⟨lt_irrefl⟩

@[simp] theorem bytes_slash : ("/" : OsText).bytes = [slash] := rfl

@[simp] theorem empty_append (text : OsText) : ("" : OsText) ++ text = text := rfl

@[simp] theorem append_empty (text : OsText) : text ++ ("" : OsText) = text :=
  congrArg mk (List.append_nil _)

theorem append_ne_empty {text : OsText} (h : text ≠ "") (rest : OsText) : text ++ rest ≠ "" := by
  rw [Ne, ← bytes_eq_nil_iff, bytes_append, List.append_eq_nil_iff, bytes_eq_nil_iff]
  exact fun hnil => h hnil.1

theorem append_slash_ne_empty (text : OsText) : text ++ "/" ≠ ("" : OsText) := by
  rw [Ne, ← bytes_eq_nil_iff, bytes_append, List.append_eq_nil_iff]
  exact fun hnil => absurd hnil.2 (by decide)

theorem size_append (first last : OsText) : (first ++ last).size = first.size + last.size :=
  List.length_append

/-! ## Joining -/

@[simp] theorem joined_singleton (name : OsText) : joined [name] = name := rfl

theorem joined_cons_of_ne_nil {rest : List OsText} (h : rest ≠ []) (name : OsText) :
    joined (name :: rest) = name ++ "/" ++ joined rest := by
  cases rest with
  | nil => exact absurd rfl h
  | cons next rest => rfl

theorem segments_slash (first rest : OsText) :
    (first ++ "/" ++ rest).segments = first.segments ++ rest.segments := by
  rw [segments, bytes_append, bytes_append, bytes_slash, List.append_assoc, List.singleton_append,
    @Text.splitWhere_append_cons _ (· == slash) slash (beq_self_eq_true slash), List.map_append]
  rfl

/-- A slash at the end opens an empty segment. -/
theorem segments_append_slash (first : OsText) : (first ++ "/").segments = first.segments ++ [("" : OsText)] := by
  rw [← append_empty (first ++ "/"), segments_slash]
  rfl

/-- A text without slashes is its only segment. -/
theorem segments_eq_singleton {name : OsText} (h : slash ∉ name.bytes) : name.segments = [name] := by
  rw [segments, Text.splitWhere_eq_singleton fun b hb => ?_]
  · rfl
  · rw [beq_eq_false_iff_ne]
    rintro rfl
    exact h hb

/-- Cutting at slashes undoes joining with slashes. -/
theorem segments_joined {names : List OsText} (hne : names ≠ [])
    (h : ∀ name ∈ names, slash ∉ name.bytes) : (joined names).segments = names := by
  induction names with
  | nil => exact absurd rfl hne
  | cons name rest ih =>
    have hname := segments_eq_singleton (h name (by simp))
    by_cases hrest : rest = []
    · rw [hrest, joined_singleton, hname]
    · rw [joined_cons_of_ne_nil hrest, segments_slash, hname,
        ih hrest fun other hother => h other (by simp [hother])]
      rfl

theorem segments_ne_nil (path : OsText) : path.segments ≠ [] := by
  rw [segments, Ne, List.map_eq_nil_iff]
  exact Text.splitWhere_ne_nil _ _

/-- No segment holds a slash. -/
theorem no_slash_of_mem_segments {path segment : OsText} (h : segment ∈ path.segments) :
    slash ∉ segment.bytes := by
  obtain ⟨run, hrun, rfl⟩ := List.mem_map.1 h
  intro hslash
  have hcut := Text.cut_eq_false_of_mem hrun hslash
  simp at hcut

/-- Joining with slashes undoes cutting at slashes. -/
theorem joined_segments (path : OsText) : joined path.segments = path := by
  by_cases hslash : ∃ b ∈ path.bytes, (b == slash) = true
  · obtain ⟨first, b, rest, heq, hfirst, hb⟩ := Text.exists_first_cut hslash
    obtain rfl : b = slash := beq_iff_eq.1 hb
    have hpath : path = mk first ++ "/" ++ mk rest := by
      rw [← bytes_inj, heq, bytes_append, bytes_append, bytes_slash, List.append_assoc,
        List.singleton_append]
    have hfree : slash ∉ (mk first).bytes := fun hmem => by simpa using hfirst slash hmem
    have hshorter : rest.length < path.bytes.length := by
      rw [heq, List.length_append, List.length_cons]
      omega
    have hrest := joined_segments (mk rest)
    rw [hpath, segments_slash, segments_eq_singleton hfree, List.singleton_append,
      joined_cons_of_ne_nil (segments_ne_nil _), hrest]
  · have hfree : slash ∉ path.bytes := fun hmem => hslash ⟨slash, hmem, beq_self_eq_true slash⟩
    rw [segments_eq_singleton hfree, joined_singleton]
termination_by path.bytes.length

/-! ## Texts in their UTF-8 form -/

theorem slash_mem_ofText_iff {text : String} : slash ∈ (text : OsText).bytes ↔ '/' ∈ text.toList :=
  mem_utf8Bytes_iff (c := '/') (by decide)

/-- The segments of a text, as bytes. -/
theorem segments_ofText (text : String) : (text : OsText).segments = (Text.segments text).map ofText := by
  rw [segments, ofText, utf8Bytes, Text.segments, Text.pieces, List.map_map]
  have hsplit := splitWhere_utf8Bytes (c := '/') (by decide) text.toList
  have hslash : UInt8.ofNat '/'.toNat = slash := rfl
  rw [hslash] at hsplit
  rw [hsplit, List.map_map]
  refine List.map_congr_left fun run _ => ?_
  rw [Function.comp_apply, Function.comp_apply, ofText, utf8Bytes, String.toList_ofList]

@[simp] theorem map_lossy_ofText (names : List String) : (names.map ofText).map lossy = names := by
  rw [List.map_map]
  exact (List.map_congr_left fun name _ => lossy_ofText name).trans (List.map_id names)

theorem joined_ofText (names : List String) :
    joined (names.map ofText) = ("/".intercalate names : String) := by
  induction names with
  | nil => rfl
  | cons name rest ih =>
    by_cases hrest : rest = []
    · rw [hrest, String.intercalate_singleton]
      rfl
    · rw [List.map_cons, joined_cons_of_ne_nil (by simpa using hrest), ih,
        String.intercalate_cons_of_ne_nil hrest, ofText_append, ofText_append]

end CodeSearch.OsText
