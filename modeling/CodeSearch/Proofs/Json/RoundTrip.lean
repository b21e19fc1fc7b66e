import CodeSearch.Proofs.Json.Layout

/-!
# Values are read as they were written

`IsReadAs depth value found` says what a reader of `depth` levels makes of a value on one line; lists
and objects are read as the lists and objects of what their parts are read as.  `Readable depth value`
says that a value is nested no deeper than such a reader goes and that its numbers are integers of 64
bits.  It is read as it was, its members in their order (`Readable.isReadBack`).

`Leads member state members last` says that members, read as they were written on one line, lead a
reader of objects from one state to another; then so does the written object
(`Leads.foldMembers_fields`).
-/

namespace CodeSearch.Json

/-- The values that a reader of some levels gives back as they were written. -/
inductive Readable : Nat → Json → Prop
  | null {depth : Nat} : Readable depth .null
  | bool {depth : Nat} (value : Bool) : Readable depth (.bool value)
  | int {depth : Nat} {n : Int} (hn : IsWord64 n) : Readable depth (.number (.int n))
  | string {depth : Nat} (text : String) : Readable depth (.string text)
  | array {depth : Nat} {items : List Json} (hitems : ∀ item ∈ items, Readable (depth + 1) item) :
    Readable (depth + 2) (.array items)
  | object {depth : Nat} {members : List (String × Json)}
    (hmembers : ∀ m ∈ members, Readable (depth + 1) m.2) : Readable (depth + 2) (.object members)

/-! ## Written values -/

theorem compactChars_number (n : Number) : (Json.number n).compactChars = n.text.toList := by
  simp only [compactChars, scalarChars]

theorem compactChars_string (text : String) :
    (Json.string text).compactChars = stringChars text := by
  simp only [compactChars, scalarChars]

theorem compactChars_object (members : List (String × Json)) (rest : List Char) :
    (Json.object members).compactChars ++ rest =
      '\x7b' :: (compactChars.fields members ++ '\x7d' :: rest) := by
  simp only [compactChars, List.cons_append, List.append_assoc, List.nil_append]

/-- The items of a list stand behind each other, with commas between them. -/
theorem values_eq_commas (items : List Json) :
    compactChars.values items = commas (items.map compactChars) := by
  induction items with
  | nil => rfl
  | cons item items ih =>
    cases items with
    | nil => simp [compactChars.values, commas]
    | cons next items => simp [compactChars.values, commas, ih]

/-- A member with the text of its value on one line. -/
def onOneLine (m : String × Json) : String × List Char := (m.1, m.2.compactChars)

/-- The members of an object stand behind each other, with commas between them. -/
theorem fields_eq_commas (members : List (String × Json)) :
    compactChars.fields members = commas ((members.map onOneLine).map (memberChars [])) := by
  induction members with
  | nil => rfl
  | cons m members ih =>
    cases members with
    | nil => simp [compactChars.fields, commas, memberChars, onOneLine]
    | cons next members => simp [compactChars.fields, commas, memberChars, onOneLine, ih]

theorem length_lt_fields (members : List (String × Json)) (rest : List Char) :
    members.length < (compactChars.fields members ++ '\x7d' :: rest).length + 1 := by
  have hlength := length_lt_commas ((members.map onOneLine).map (memberChars []))
    (List.cons_ne_nil '\x7d' rest)
  rwa [List.length_map, List.length_map, ← fields_eq_commas] at hlength

/-- A value is read from its form on one line as some value, unless a number goes on behind it. -/
def IsReadAs (depth : Nat) (value found : Json) : Prop := StandsFor depth value.compactChars found

/-- A value is read as it was written on one line. -/
def IsReadBack (depth : Nat) (value : Json) : Prop := IsReadAs depth value value

/-! ## Members -/

section Members

variable {σ : Type} {member : σ → String → List Char → Except JsonError (σ × List Char)}

/-- Members lead a reader from one state to another, if each of them is read as it was written. -/
inductive Leads (member : σ → String → List Char → Except JsonError (σ × List Char)) :
    σ → List (String × Json) → σ → Prop
  | nil {state : σ} : Leads member state [] state
  | cons {state next last : σ} {key : String} {value : Json} {members : List (String × Json)}
    (hmember : ∀ rest, EndsNumber rest →
      member state key (':' :: (value.compactChars ++ rest)) = .ok (next, rest))
    (hmembers : Leads member next members last) :
    Leads member state ((key, value) :: members) last

theorem Leads.leadsAlong {state last : σ} {members : List (String × Json)}
    (h : Leads member state members last) :
    LeadsAlong member state (members.map onOneLine) last := by
  induction h with
  | nil => exact .nil
  | cons hmember _ ih => exact .cons hmember ih

/-- The members of a written object are gone through to their end. -/
theorem Leads.foldMembers_fields {state last : σ} {members : List (String × Json)}
    (h : Leads member state members last) {steps : Nat} (hsteps : members.length < steps)
    (rest : List Char) :
    foldMembers member steps true state (compactChars.fields members ++ '\x7d' :: rest) =
      .ok (last, rest) := by
  rw [fields_eq_commas]
  exact h.leadsAlong.foldMembers_commas (by rwa [List.length_map]) areBlanks_nil areBlanks_nil rest

end Members

/-- A member is read as some member if its value is. -/
def IsMemberReadAs (depth : Nat) (m found : String × Json) : Prop :=
  m.1 = found.1 ∧ IsReadAs depth m.2 found.2

/-! ## Values -/

theorem readValue_quote (depth : Nat) (rest : List Char) :
    readValue depth ('"' :: rest) =
      readString [] rest >>= fun r => .ok (.string r.1, r.2) := by
  rw [readValue, skipBlanks_cons rfl]
  rfl

theorem isBlank_of_isDigit {c : Char} (hc : c = '-' ∨ c.isDigit = true) : isBlank c = false := by
  by_contra h
  simp only [isBlank, Bool.not_eq_false, Bool.or_eq_true, beq_iff_eq] at h
  rcases h with ((rfl | rfl) | rfl) | rfl <;> simp at hc

theorem readValue_digit (depth : Nat) {c : Char} (hc : c = '-' ∨ c.isDigit = true)
    (rest : List Char) :
    readValue depth (c :: rest) =
      readNumber (c :: rest) >>= fun r => .ok (.number r.1, r.2) := by
  have hnull : c ≠ 'n' := by
    rintro rfl
    simp at hc
  have htrue : c ≠ 't' := by
    rintro rfl
    simp at hc
  have hfalse : c ≠ 'f' := by
    rintro rfl
    simp at hc
  rw [readValue, skipBlanks_cons (isBlank_of_isDigit hc)]
  simp only [hnull, htrue, hfalse, hc, if_true, if_false]

/-- A list is read as the list of what its items are read as. -/
theorem IsReadAs.array {depth : Nat} {items found : List Json}
    (hitems : List.Forall₂ (IsReadAs (depth + 1)) items found) :
    IsReadAs (depth + 2) (.array items) (.array found) := by
  have htexts : List.Forall₂ (StandsFor (depth + 1)) (items.map compactChars) found :=
    List.forall₂_map_left_iff.2 hitems
  have harray := StandsFor.array htexts areBlanks_nil
  rwa [← values_eq_commas] at harray

/-- An object is read as the object of what its members are read as. -/
theorem IsReadAs.object {depth : Nat} {members found : List (String × Json)}
    (hmembers : List.Forall₂ (IsMemberReadAs (depth + 1)) members found) :
    IsReadAs (depth + 2) (.object members) (.object found) := by
  have htexts : List.Forall₂ (MemberStandsFor (depth + 1)) (members.map onOneLine) found :=
    List.forall₂_map_left_iff.2 hmembers
  have hobject := StandsFor.object htexts areBlanks_nil areBlanks_nil
  rwa [← fields_eq_commas] at hobject

theorem isReadBack_null (depth : Nat) : IsReadBack depth .null := by
  intro rest _
  rw [readValue]
  rfl

theorem isReadBack_bool (depth : Nat) (value : Bool) : IsReadBack depth (.bool value) := by
  intro rest _
  rw [readValue]
  cases value <;> rfl

theorem isReadBack_string (depth : Nat) (text : String) : IsReadBack depth (.string text) := by
  intro rest _
  rw [compactChars_string, stringChars_append, readValue_quote, readString_text]
  rfl

/-- A number is read as what its text is read as. -/
theorem IsReadAs.number {depth : Nat} {n m : Number}
    (hfirst : ∃ c digits, n.text.toList = c :: digits ∧ (c = '-' ∨ c.isDigit = true))
    (hread : ∀ rest, EndsNumber rest → readNumber (n.text.toList ++ rest) = .ok (m, rest)) :
    IsReadAs depth (.number n) (.number m) := by
  intro rest hrest
  obtain ⟨c, digits, htext, hc⟩ := hfirst
  have hread := hread rest hrest
  rw [htext, List.cons_append] at hread
  rw [compactChars_number, htext, List.cons_append, readValue_digit depth hc, hread]
  rfl

/-- A readable value is read as it was written on one line. -/
theorem Readable.isReadBack {depth : Nat} {value : Json} (h : Readable depth value) :
    IsReadBack depth value := by
  induction h with
  | null => exact isReadBack_null _
  | bool value => exact isReadBack_bool _ value
  | @int depth n hn => exact .number (exists_text_eq_cons n) fun rest hrest => readNumber_text hn hrest
  | string text => exact isReadBack_string _ text
  | array hitems ih => exact .array (List.forall₂_same.mpr ih)
  | object hmembers ih => exact .object (List.forall₂_same.mpr fun m hm => ⟨rfl, ih m hm⟩)

/-! ## Values of a certain kind -/

theorem readText_compactChars (expected text : String) (rest : List Char) :
    readText expected ((Json.string text).compactChars ++ rest) = .ok (text, rest) := by
  rw [compactChars_string, stringChars_append, readText, skipBlanks_cons rfl]
  exact readString_text text rest

theorem isWord64_toNat (n : UInt64) : IsWord64 n.toNat where
  ge := by omega
  lt := by
    have := n.toNat_lt
    omega

theorem readWordNumber_compactChars (n : UInt64) {rest : List Char} (hrest : EndsNumber rest) :
    readWordNumber ((Json.nat n.toNat).compactChars ++ rest) = .ok (n, rest) := by
  obtain ⟨c, digits, htext, hc⟩ := exists_text_eq_cons n.toNat
  have hread := readNumber_text (isWord64_toNat n) hrest
  rw [nat, compactChars_number]
  rw [htext, List.cons_append] at hread ⊢
  rw [readWordNumber, skipBlanks_cons (isBlank_of_isDigit hc)]
  simp only [hc, if_true, hread, bind, Except.bind]
  show Except.ok (UInt64.ofNat n.toNat, rest) = .ok (n, rest)
  rw [UInt64.ofNat_toNat]

/-! ## Whole texts -/

/-- What a whole text is was read at its front. -/
theorem exists_of_atEnd {α : Type} {reading : Except JsonError (α × List Char)} {value : α}
    (h : atEnd reading = .ok value) : ∃ rest, reading = .ok (value, rest) := by
  cases reading with
  | error e => simp [atEnd, bind, Except.bind] at h
  | ok r =>
    obtain ⟨found, rest⟩ := r
    simp only [atEnd, bind, Except.bind] at h
    split at h
    case isTrue => exact ⟨rest, by rw [Except.ok.inj h]⟩
    case isFalse => simp at h

end CodeSearch.Json
