import CodeSearch.Proofs.Json.Scalars
import Mathlib.Data.List.DropRight
import Mathlib.Data.List.Forall2

/-!
# Lists and objects are read whatever their layout

A text stands for a value if a reader of values makes that value of it (`StandsFor`).  Texts of items
that stand behind each other, with commas between them and brackets around, stand for the list of
what the items stand for (`StandsFor.array`), and likewise for objects (`StandsFor.object`).  Blanks
may stand before every item and before the closing bracket, so this holds of a list on one line and of
one with an item a line.

All readers of objects go through members by `foldMembers`, whatever they make of them.
`LeadsAlong member state members last` says that members, by their keys and the texts behind the
colons, lead such a reader from one state to another; then so does a written object that has them
(`LeadsAlong.foldMembers_commas`).
-/

namespace CodeSearch.Json

/-! ## Blanks -/

theorem skipBlanks_cons {c : Char} (hc : isBlank c = false) (rest : List Char) :
    skipBlanks (c :: rest) = c :: rest := by
  rw [skipBlanks, List.dropWhile_cons, hc]
  rfl

theorem skipBlanks_skipBlanks (text : List Char) : skipBlanks (skipBlanks text) = skipBlanks text :=
  List.dropWhile_idempotent isBlank text

/-- A value may be read from its first token on. -/
theorem readValue_skipBlanks (depth : Nat) (text : List Char) :
    readValue depth (skipBlanks text) = readValue depth text := by
  unfold readValue
  rw [skipBlanks_skipBlanks]

/-- Whether some characters are all blank. -/
def AreBlanks (gap : List Char) : Prop := ∀ c ∈ gap, isBlank c = true

theorem areBlanks_nil : AreBlanks [] := List.forall_mem_nil _

theorem areBlanks_newLine (level : Nat) : AreBlanks (newLine level) := by
  intro c hc
  rcases List.mem_cons.1 hc with rfl | hc
  · decide
  · rw [List.eq_of_mem_replicate hc]
    decide

theorem skipBlanks_append {gap : List Char} (hgap : AreBlanks gap) (text : List Char) :
    skipBlanks (gap ++ text) = skipBlanks text :=
  List.dropWhile_append_of_pos hgap

/-- Blanks may stand before a token. -/
theorem skipBlanks_append_cons {gap : List Char} (hgap : AreBlanks gap) {c : Char}
    (hc : isBlank c = false) (rest : List Char) : skipBlanks (gap ++ c :: rest) = c :: rest := by
  rw [skipBlanks_append hgap, skipBlanks_cons hc]

theorem readValue_append_blanks {gap : List Char} (hgap : AreBlanks gap) (depth : Nat)
    (text : List Char) : readValue depth (gap ++ text) = readValue depth text := by
  rw [← readValue_skipBlanks, skipBlanks_append hgap, readValue_skipBlanks]

/-! ## Texts of values -/

/-- A reader of some levels makes a value of a text, unless a number goes on behind it. -/
def StandsFor (depth : Nat) (text : List Char) (found : Json) : Prop :=
  ∀ rest, EndsNumber rest → readValue depth (text ++ rest) = .ok (found, rest)

theorem StandsFor.indent {depth : Nat} {text : List Char} {found : Json}
    (h : StandsFor depth text found) {gap : List Char} (hgap : AreBlanks gap) :
    StandsFor depth (gap ++ text) found := by
  intro rest hrest
  rw [List.append_assoc, readValue_append_blanks hgap]
  exact h rest hrest

/-- Texts behind each other, with commas between them. -/
def commas : List (List Char) → List Char
  | [] => []
  | text :: texts => text ++ texts.flatMap (',' :: ·)

/-- Every further text has one character at least, its comma. -/
theorem length_le_length_flatMap (texts : List (List Char)) :
    texts.length ≤ (texts.flatMap (',' :: ·)).length := by
  induction texts with
  | nil => exact Nat.zero_le _
  | cons text texts ih =>
    rw [List.flatMap_cons, List.length_append, List.length_cons, List.length_cons]
    omega

theorem length_lt_commas (texts : List (List Char)) {rest : List Char} (hrest : rest ≠ []) :
    texts.length < (commas texts ++ rest).length + 1 := by
  have hpos : 0 < rest.length := List.length_pos_iff.2 hrest
  cases texts with
  | nil => exact Nat.succ_pos _
  | cons text texts =>
    have hcommas := length_le_length_flatMap texts
    rw [commas, List.length_append, List.length_append, List.length_cons]
    omega

/-- No number goes on with a blank. -/
theorem endsNumber_blanks {gap : List Char} (hgap : AreBlanks gap) {rest : List Char}
    (hrest : EndsNumber rest) : EndsNumber (gap ++ rest) := by
  cases gap with
  | nil => exact hrest
  | cons blank gap =>
    intro c hc
    obtain rfl : blank = c := by simpa using hc
    have hblank : isBlank blank = true := hgap blank (by simp)
    simp only [isBlank, Bool.or_eq_true, beq_iff_eq] at hblank
    rcases hblank with ((rfl | rfl) | rfl) | rfl <;> decide

/-- Nor does it go on with the end of a list or an object. -/
theorem endsNumber_close {gap : List Char} (hgap : AreBlanks gap) {close : Char}
    (hclose : close = ']' ∨ close = '\x7d') (rest : List Char) :
    EndsNumber (gap ++ close :: rest) := by
  refine endsNumber_blanks hgap fun c hc => ?_
  obtain rfl : close = c := by simpa using hc
  rcases hclose with rfl | rfl <;> decide

/-- Nor with a comma. -/
theorem endsNumber_tail (texts : List (List Char)) {rest : List Char} (hrest : EndsNumber rest) :
    EndsNumber (texts.flatMap (',' :: ·) ++ rest) := by
  cases texts with
  | nil => exact hrest
  | cons text texts =>
    intro c hc
    obtain rfl : ',' = c := by simpa using hc
    decide

/-! ## Items -/

/-- What a reader of values accepts is not the end of a list. -/
theorem exists_skipBlanks_of_readValue {depth : Nat} {text : List Char} {r : Json × List Char}
    (h : readValue depth text = .ok r) : ∃ c rest, skipBlanks text = c :: rest ∧ c ≠ ']' := by
  unfold readValue at h
  cases htext : skipBlanks text with
  | nil => simp [htext] at h
  | cons c rest =>
    refine ⟨c, rest, rfl, ?_⟩
    rintro rfl
    simp [htext] at h

/-- The first item of a list is found behind the bracket. -/
theorem nextItem_first {depth : Nat} {text : List Char} {r : Json × List Char}
    (h : readValue depth text = .ok r) : nextItem true text = .ok (some (skipBlanks text)) := by
  obtain ⟨c, rest, htext, hc⟩ := exists_skipBlanks_of_readValue h
  unfold nextItem
  simp [htext]

/-- The next item of a list is found behind a comma. -/
theorem nextItem_next {depth : Nat} {text : List Char} {r : Json × List Char}
    (h : readValue depth text = .ok r) :
    nextItem false (',' :: text) = .ok (some (skipBlanks text)) := by
  obtain ⟨c, rest, htext, hc⟩ := exists_skipBlanks_of_readValue h
  unfold nextItem
  rw [skipBlanks_cons rfl]
  simp [htext, hc]

section Items

variable {depth : Nat} {texts : List (List Char)} {found : List Json} {gap : List Char}

/-- Reading ends with the bracket. -/
theorem readItems_end (hgap : AreBlanks gap) (steps : Nat) (read : List Json) (rest : List Char) :
    readItems (readValue depth) (steps + 1) read (gap ++ ']' :: rest) =
      .ok (.array read.reverse, rest) := by
  have hnext (first : Bool) : nextItem first (gap ++ ']' :: rest) = .ok none := by
    rw [nextItem, skipBlanks_append_cons hgap rfl]
    rfl
  have hend : endList (gap ++ ']' :: rest) = .ok rest := by
    rw [endList, skipBlanks_append_cons hgap rfl]
    rfl
  rw [readItems, hnext]
  simp only [bind, Except.bind, hend]

/-- Texts of items are read as a list, behind the items before them. -/
theorem readItems_tail (htexts : List.Forall₂ (StandsFor depth) texts found) {steps : Nat}
    (hsteps : texts.length < steps) {read : List Json} (hread : read ≠ []) (hgap : AreBlanks gap)
    (rest : List Char) :
    readItems (readValue depth) steps read
        (texts.flatMap (',' :: ·) ++ (gap ++ ']' :: rest)) =
      .ok (.array (read.reverse ++ found), rest) := by
  have hfirst : read.isEmpty = false := by simpa using hread
  induction htexts generalizing steps read with
  | nil =>
    obtain ⟨steps, rfl⟩ := Nat.exists_eq_add_one.mpr hsteps
    rw [List.append_nil]
    exact readItems_end hgap steps read rest
  | @cons text value texts found hvalue htexts ih =>
    obtain ⟨steps, rfl⟩ := Nat.exists_eq_add_one.mpr (Nat.zero_lt_of_lt hsteps)
    -- a comma or the end of the list ends a number in the item
    have hends := endsNumber_tail texts (endsNumber_close hgap (.inl rfl) rest)
    have hitem := hvalue _ hends
    have hlength : texts.length < steps := Nat.lt_of_succ_lt_succ hsteps
    have hrest := ih hlength (List.cons_ne_nil value read) rfl
    rw [readItems, hfirst, List.flatMap_cons, List.cons_append, List.cons_append, List.append_assoc,
      nextItem_next hitem]
    simp only [bind, Except.bind, readValue_skipBlanks, hitem, hrest]
    simp

/-- Behind the bracket, texts of items are read as a list. -/
theorem readItems_commas (htexts : List.Forall₂ (StandsFor depth) texts found) {steps : Nat}
    (hsteps : texts.length < steps) (hgap : AreBlanks gap) (rest : List Char) :
    readItems (readValue depth) steps [] (commas texts ++ (gap ++ ']' :: rest)) =
      .ok (.array found, rest) := by
  obtain ⟨steps, rfl⟩ := Nat.exists_eq_add_one.mpr (Nat.zero_lt_of_lt hsteps)
  cases htexts with
  | nil => exact readItems_end hgap steps [] rest
  | @cons text value texts found hvalue htexts =>
    have hends := endsNumber_tail texts (endsNumber_close hgap (.inl rfl) rest)
    have hitem := hvalue _ hends
    have hlength : texts.length < steps := Nat.lt_of_succ_lt_succ hsteps
    have htail := readItems_tail htexts hlength (List.cons_ne_nil value []) hgap rest
    rw [readItems, List.isEmpty_nil, commas, List.append_assoc, nextItem_first hitem]
    simp only [bind, Except.bind, readValue_skipBlanks, hitem, htail]
    rfl

end Items

/-! ## Members -/

/-- A value is looked for behind its colon. -/
theorem readColon_cons (text : List Char) : readColon (':' :: text) = .ok text := rfl

/-- A member by its key and the text behind the colon. -/
def memberChars (indent : List Char) (m : String × List Char) : List Char :=
  indent ++ (stringChars m.1 ++ ':' :: m.2)

section Members

variable {σ : Type} {member : σ → String → List Char → Except JsonError (σ × List Char)}
  {indent gap : List Char}

/-- Behind the brace, reading goes on with the first member. -/
theorem foldMembers_first (hindent : AreBlanks indent) (steps : Nat) (state : σ)
    (m : String × List Char) (rest : List Char) :
    foldMembers member (steps + 1) true state (memberChars indent m ++ rest) =
      member state m.1 (':' :: (m.2 ++ rest)) >>= fun r =>
        foldMembers member steps false r.1 r.2 := by
  have hkey : nextKey true (memberChars indent m ++ rest) =
      .ok (some (m.1.toList.flatMap escapedChar ++ '"' :: (':' :: (m.2 ++ rest))), []) := by
    rw [memberChars, List.append_assoc, List.append_assoc, stringChars_append, nextKey,
      skipBlanks_append_cons hindent rfl]
    rfl
  rw [foldMembers, hkey]
  simp only [bind, Except.bind, readString_text]

/-- Behind a member, reading goes on with the next one. -/
theorem foldMembers_next (hindent : AreBlanks indent) (steps : Nat) (state : σ)
    (m : String × List Char) (rest : List Char) :
    foldMembers member (steps + 1) false state (',' :: (memberChars indent m ++ rest)) =
      member state m.1 (':' :: (m.2 ++ rest)) >>= fun r =>
        foldMembers member steps false r.1 r.2 := by
  have hkey : nextKey false (',' :: (memberChars indent m ++ rest)) =
      .ok (some (m.1.toList.flatMap escapedChar ++ '"' :: (':' :: (m.2 ++ rest))), []) := by
    have hskip (text : List Char) : skipBlanks (indent ++ '"' :: text) = '"' :: text :=
      skipBlanks_append_cons hindent rfl text
    rw [memberChars, List.append_assoc, List.append_assoc, stringChars_append, nextKey,
      skipBlanks_cons rfl]
    simp [hskip]
  rw [foldMembers, hkey]
  simp only [bind, Except.bind, readString_text]

/-- Reading ends with the brace. -/
theorem foldMembers_end (hgap : AreBlanks gap) (steps : Nat) (first : Bool) (state : σ)
    (rest : List Char) :
    foldMembers member (steps + 1) first state (gap ++ '\x7d' :: rest) = .ok (state, rest) := by
  have hend : nextKey first (gap ++ '\x7d' :: rest) = .ok (none, rest) := by
    rw [nextKey, skipBlanks_append_cons hgap rfl]
    rfl
  rw [foldMembers, hend]
  rfl

/-- Members lead a reader from one state to another, if each of them is read from its key and the text
behind its colon. -/
inductive LeadsAlong (member : σ → String → List Char → Except JsonError (σ × List Char)) :
    σ → List (String × List Char) → σ → Prop
  | nil {state : σ} : LeadsAlong member state [] state
  | cons {state next last : σ} {m : String × List Char} {members : List (String × List Char)}
    (hmember : ∀ rest, EndsNumber rest →
      member state m.1 (':' :: (m.2 ++ rest)) = .ok (next, rest))
    (hmembers : LeadsAlong member next members last) :
    LeadsAlong member state (m :: members) last

variable {state last : σ} {members : List (String × List Char)}

/-- Members behind others are gone through to their end. -/
theorem LeadsAlong.foldMembers_tail (h : LeadsAlong member state members last) {steps : Nat}
    (hsteps : members.length < steps) (hindent : AreBlanks indent) (hgap : AreBlanks gap)
    (rest : List Char) :
    foldMembers member steps false state
        ((members.map (memberChars indent)).flatMap (',' :: ·) ++ (gap ++ '\x7d' :: rest)) =
      .ok (last, rest) := by
  induction h generalizing steps with
  | nil =>
    obtain ⟨steps, rfl⟩ := Nat.exists_eq_add_one.mpr hsteps
    exact foldMembers_end hgap steps false _ rest
  | @cons state next last m members hmember hmembers ih =>
    obtain ⟨steps, rfl⟩ := Nat.exists_eq_add_one.mpr (Nat.zero_lt_of_lt hsteps)
    have hends := endsNumber_tail (members.map (memberChars indent))
      (endsNumber_close hgap (.inr rfl) rest)
    have htail := ih (Nat.lt_of_succ_lt_succ hsteps)
    rw [List.map_cons, List.flatMap_cons, List.cons_append, List.cons_append, List.append_assoc,
      foldMembers_next hindent, hmember _ hends]
    exact htail

/-- The members of a written object are gone through to their end. -/
theorem LeadsAlong.foldMembers_commas (h : LeadsAlong member state members last) {steps : Nat}
    (hsteps : members.length < steps) (hindent : AreBlanks indent) (hgap : AreBlanks gap)
    (rest : List Char) :
    foldMembers member steps true state
        (commas (members.map (memberChars indent)) ++ (gap ++ '\x7d' :: rest)) =
      .ok (last, rest) := by
  obtain ⟨steps, rfl⟩ := Nat.exists_eq_add_one.mpr (Nat.zero_lt_of_lt hsteps)
  cases h with
  | nil => exact foldMembers_end hgap steps true state rest
  | @cons _ next _ m members hmember hmembers =>
    have hends := endsNumber_tail (members.map (memberChars indent))
      (endsNumber_close hgap (.inr rfl) rest)
    have htail := hmembers.foldMembers_tail (Nat.lt_of_succ_lt_succ hsteps) hindent hgap rest
    rw [List.map_cons, commas, List.append_assoc, foldMembers_first hindent, hmember _ hends]
    exact htail

end Members

/-- How a value reads the members of an object: it keeps them in reverse. -/
def readField (depth : Nat) (members : List (String × Json)) (key : String) (text : List Char) :
    Except JsonError (List (String × Json) × List Char) := do
  let (value, rest) ← readValue depth (← readColon text)
  .ok ((key, value) :: members, rest)

/-- A key and the text behind it stand for a member if the text stands for its value. -/
def MemberStandsFor (depth : Nat) (m : String × List Char) (found : String × Json) : Prop :=
  m.1 = found.1 ∧ StandsFor depth m.2 found.2

/-- Members are kept in reverse, behind those before them. -/
theorem leadsAlong_readField {depth : Nat} {members : List (String × List Char)}
    {found : List (String × Json)} (hmembers : List.Forall₂ (MemberStandsFor depth) members found)
    (read : List (String × Json)) :
    LeadsAlong (readField depth) read members (found.reverse ++ read) := by
  induction hmembers generalizing read with
  | nil => exact .nil
  | @cons m value members found hvalue hmembers ih =>
    obtain ⟨hkey, hvalue⟩ := hvalue
    rw [List.reverse_cons, List.append_assoc]
    refine .cons (fun rest hrest => ?_) (ih _)
    rw [readField, readColon_cons]
    simp only [bind, Except.bind, hvalue rest hrest, hkey]
    rfl

/-! ## Lists and objects -/

theorem readValue_bracket (depth : Nat) (rest : List Char) :
    readValue (depth + 2) ('[' :: rest) =
      readItems (readValue (depth + 1)) (rest.length + 1) [] rest := by
  rw [readValue, skipBlanks_cons rfl]
  rfl

theorem readValue_brace (depth : Nat) (rest : List Char) :
    readValue (depth + 2) ('\x7b' :: rest) =
      foldMembers (readField (depth + 1)) (rest.length + 1) true [] rest >>= fun r =>
        .ok (.object r.1.reverse, r.2) := by
  rw [readValue, skipBlanks_cons rfl]
  rfl

/-- A list may be laid out with any blanks before its end. -/
theorem StandsFor.array {depth : Nat} {texts : List (List Char)} {found : List Json}
    (htexts : List.Forall₂ (StandsFor (depth + 1)) texts found) {gap : List Char}
    (hgap : AreBlanks gap) :
    StandsFor (depth + 2) ('[' :: (commas texts ++ (gap ++ [']']))) (.array found) := by
  intro rest _
  have hlength : texts.length < (commas texts ++ (gap ++ ']' :: rest)).length + 1 :=
    length_lt_commas texts (by simp)
  have hread := readItems_commas htexts hlength hgap rest
  simpa only [List.cons_append, List.append_assoc, List.nil_append, readValue_bracket] using hread

/-- An object may be laid out with any blanks before its members and its end. -/
theorem StandsFor.object {depth : Nat} {members : List (String × List Char)}
    {found : List (String × Json)}
    (hmembers : List.Forall₂ (MemberStandsFor (depth + 1)) members found) {indent gap : List Char}
    (hindent : AreBlanks indent) (hgap : AreBlanks gap) :
    StandsFor (depth + 2) ('\x7b' :: (commas (members.map (memberChars indent)) ++ (gap ++ ['\x7d'])))
      (.object found) := by
  intro rest _
  have hlength : (members.map (memberChars indent)).length <
      (commas (members.map (memberChars indent)) ++ (gap ++ '\x7d' :: rest)).length + 1 :=
    length_lt_commas _ (by simp)
  rw [List.length_map] at hlength
  have hread := (leadsAlong_readField hmembers []).foldMembers_commas hlength hindent hgap rest
  simp only [List.cons_append, List.append_assoc, List.nil_append, readValue_brace, hread, bind,
    Except.bind, List.append_nil, List.reverse_reverse]

end CodeSearch.Json
