import CodeSearch.Proofs.Json.RoundTrip

/-!
# Values are read from the form with one item a line

A value with one item a line differs from the value on one line by blanks alone: before each item and
member, before the value of a member, and before the bracket that closes a list or an object with
something in it.  So it is read as it was written, too (`Readable.parse_pretty`).
-/

namespace CodeSearch.Json

/-- An item on a line at some level. -/
def itemLine (level : Nat) (item : Json) : List Char := newLine level ++ item.prettyChars level

/-- A member with the text behind its colon, on a line at some level. -/
def atLevel (level : Nat) (m : String × Json) : String × List Char :=
  (m.1, ' ' :: m.2.prettyChars level)

theorem prettyValues_eq_commas (level : Nat) (items : List Json) :
    prettyChars.values level items = commas (items.map (itemLine level)) := by
  induction items with
  | nil => rfl
  | cons item items ih =>
    cases items with
    | nil => simp [prettyChars.values, commas, itemLine]
    | cons next items => simp [prettyChars.values, commas, itemLine, ih]

theorem prettyFields_eq_commas (level : Nat) (members : List (String × Json)) :
    prettyChars.fields level members =
      commas ((members.map (atLevel level)).map (memberChars (newLine level))) := by
  induction members with
  | nil => rfl
  | cons m members ih =>
    cases members with
    | nil => simp [prettyChars.fields, commas, memberChars, atLevel]
    | cons next members => simp [prettyChars.fields, commas, memberChars, atLevel, ih]

/-- A list ends with a line of its own, unless it is empty. -/
theorem exists_prettyChars_array (level : Nat) (items : List Json) :
    ∃ gap, AreBlanks gap ∧ (Json.array items).prettyChars level =
      '[' :: (commas (items.map (itemLine (level + 1))) ++ (gap ++ [']'])) := by
  cases items with
  | nil => exact ⟨[], areBlanks_nil, rfl⟩
  | cons item items =>
    refine ⟨newLine level, areBlanks_newLine level, ?_⟩
    rw [← prettyValues_eq_commas]
    simp [prettyChars]

/-- An object ends with a line of its own, unless it is empty. -/
theorem exists_prettyChars_object (level : Nat) (members : List (String × Json)) :
    ∃ gap, AreBlanks gap ∧ (Json.object members).prettyChars level =
      '\x7b' :: (commas ((members.map (atLevel (level + 1))).map (memberChars (newLine (level + 1)))) ++
        (gap ++ ['\x7d'])) := by
  cases members with
  | nil => exact ⟨[], areBlanks_nil, rfl⟩
  | cons m members =>
    refine ⟨newLine level, areBlanks_newLine level, ?_⟩
    rw [← prettyFields_eq_commas]
    simp [prettyChars]

/-- A readable value is read as it was written with one item a line. -/
theorem Readable.standsFor_prettyChars {depth : Nat} {value : Json} (h : Readable depth value)
    (level : Nat) : StandsFor depth (value.prettyChars level) value := by
  induction h generalizing level with
  | null => exact isReadBack_null _
  | bool value => exact isReadBack_bool _ value
  | int hn => exact (Readable.int hn).isReadBack
  | string text => exact isReadBack_string _ text
  | @array depth items hitems ih =>
    obtain ⟨gap, hgap, heq⟩ := exists_prettyChars_array level items
    rw [heq]
    -- each item is indented by its line
    refine .array (List.forall₂_map_left_iff.2 (List.forall₂_same.2 fun item hitem => ?_)) hgap
    exact (ih item hitem (level + 1)).indent (areBlanks_newLine _)
  | @object depth members hmembers ih =>
    obtain ⟨gap, hgap, heq⟩ := exists_prettyChars_object level members
    have hspace : AreBlanks [' '] := by simp [AreBlanks, isBlank]
    rw [heq]
    refine .object (List.forall₂_map_left_iff.2 (List.forall₂_same.2 fun m hm => ⟨rfl, ?_⟩))
      (areBlanks_newLine _) hgap
    exact (ih m hm (level + 1)).indent hspace

/-- A text with one item a line is read as a whole, also with blanks behind it. -/
theorem Readable.parse_pretty {value : Json} (h : Readable maxDepth value) {blanks : String}
    (hblanks : AreBlanks blanks.toList) : parse (value.pretty ++ blanks) = .ok value := by
  have hends : EndsNumber blanks.toList := by
    rw [← List.append_nil blanks.toList]
    exact endsNumber_blanks hblanks (by simp [EndsNumber])
  have hend : skipBlanks blanks.toList = [] := List.dropWhile_eq_nil_iff.2 hblanks
  rw [parse, pretty, String.toList_append, String.toList_ofList,
    h.standsFor_prettyChars 0 _ hends]
  simp only [atEnd, bind, Except.bind, hend]
  rfl

end CodeSearch.Json
