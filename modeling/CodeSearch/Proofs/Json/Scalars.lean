import CodeSearch.Json.Printer
import CodeSearch.Json.Reader
import CodeSearch.Proofs.Decimal.Digits
import Mathlib.Data.List.TakeDrop
import Mathlib.Tactic.IntervalCases

/-!
# Strings and numbers are read as they were written

Every escape leads back to its character, so a string is read as it was written, whatever follows
it (`readString_text`).  An integer of 64 bits is read as it was written unless what follows would
go on with it: a digit, a point or an exponent (`readNumber_text`).
-/

namespace CodeSearch.Json

open Decimal (le_ofDigitChars exists_toDigits_eq_cons head?_toDigits)

/-! ## Strings -/

/-- The two last digits of a control character's escape, behind two zeros, stand for it. -/
theorem hexQuad?_digitChar {n : Nat} (hn : n < 32) :
    hexQuad? '0' '0' (Nat.digitChar (n / 16)) (Nat.digitChar (n % 16)) = some n := by
  interval_cases n <;> decide

/-- A character without an escape is read as itself. -/
theorem readString_plain (read rest : List Char) {c : Char} (hquote : c ≠ '"') (hslash : c ≠ '\\')
    (hc : ¬ c < ' ') : readString read (c :: rest) = readString (c :: read) rest := by
  rw [readString, if_neg hc]
  · exact hquote
  · exact fun _ _ _ _ _ h _ => hslash h
  · exact fun h _ => hslash h
  · exact fun _ _ h _ => hslash h

/-- What is written for a character is read as that character. -/
theorem readString_escapedChar (read rest : List Char) (c : Char) :
    readString read (escapedChar c ++ rest) = readString (c :: read) rest := by
  unfold escapedChar
  split
  case h_8 hquote hslash _ _ _ _ _ =>
    split
    case isTrue hc =>
      have hn : c.toNat < 32 := hc
      -- no surrogate, so the four digits stand by themselves
      have hunit : ¬(0xDC00 ≤ c.toNat ∧ c.toNat ≤ 0xDFFF) ∧
          ¬(0xD800 ≤ c.toNat ∧ c.toNat ≤ 0xDBFF) := by omega
      simp [readString, hexQuad?_digitChar hn, hunit]
    case isFalse hc => exact readString_plain read rest hquote hslash hc
  all_goals simp [readString, shortEscape?]

/-- A text is read up to its closing quote, behind what was read before. -/
theorem readString_flatMap (text read rest : List Char) :
    readString read (text.flatMap escapedChar ++ '"' :: rest) =
      .ok (String.ofList (read.reverse ++ text), rest) := by
  induction text generalizing read with
  | nil => simp [readString]
  | cons c text ih =>
    rw [List.flatMap_cons, List.append_assoc, readString_escapedChar, ih]
    simp

/-- A string value is a quote before what reading a string undoes. -/
theorem stringChars_append (text : String) (rest : List Char) :
    stringChars text ++ rest = '"' :: (text.toList.flatMap escapedChar ++ '"' :: rest) := by
  simp [stringChars]

/-- A string is read as it was written, whatever follows it. -/
theorem readString_text (text : String) (rest : List Char) :
    readString [] (text.toList.flatMap escapedChar ++ '"' :: rest) = .ok (text, rest) := by
  rw [readString_flatMap]
  simp

/-! ## Numbers -/

/-- Whether a text leaves a number before it as it is. -/
def EndsNumber (rest : List Char) : Prop :=
  ∀ c ∈ rest.head?, c.isDigit = false ∧ c ≠ '.' ∧ c ≠ 'e' ∧ c ≠ 'E'

/-- An integer that is kept exactly. -/
structure IsWord64 (n : Int) : Prop where
  ge : -2 ^ 63 ≤ n
  lt : n < 2 ^ 64

/-- Digits are taken in whole as long as their number is small. -/
theorem takeDigits_eq {digits : List Char} {n : Nat}
    (h : Nat.ofDigitChars 10 digits n ≤ maxInteger) :
    takeDigits n digits = (Nat.ofDigitChars 10 digits n, []) := by
  induction digits generalizing n with
  | nil => simp [takeDigits]
  | cons c digits ih =>
    rw [Nat.ofDigitChars_cons] at h ⊢
    have hnext : n * 10 + (c.toNat - 48) = 10 * n + (c.toNat - '0'.toNat) := by
      rw [Nat.mul_comm]
      rfl
    have hle := le_ofDigitChars digits (10 * n + (c.toNat - '0'.toNat))
    rw [takeDigits]
    simp only [hnext]
    rw [if_neg (by omega), ih h]

/-- Digits are cut off where they end. -/
theorem span_digits {digits : List Char} (hdigits : ∀ c ∈ digits, c.isDigit = true)
    {rest : List Char} (hrest : ∀ c ∈ rest.head?, c.isDigit = false) :
    (digits ++ rest).span Char.isDigit = (digits, rest) := by
  have htake : rest.takeWhile Char.isDigit = [] := by
    cases rest with
    | nil => rfl
    | cons c rest => simp [hrest c rfl]
  have hdrop : rest.dropWhile Char.isDigit = rest := by
    cases rest with
    | nil => rfl
    | cons c rest => simp [hrest c rfl]
  rw [List.span_eq_takeWhile_dropWhile, List.takeWhile_append_of_pos hdigits,
    List.dropWhile_append_of_pos hdigits, htake, hdrop, List.append_nil]

/-- The digits of a number are cut off where they end. -/
theorem span_toDigits (n : Nat) {rest : List Char} (hrest : EndsNumber rest) :
    (Nat.toDigits 10 n ++ rest).span Char.isDigit = (Nat.toDigits 10 n, rest) :=
  span_digits (fun _ hc => Nat.isDigit_of_mem_toDigits (by decide) (by decide) hc)
    fun c hc => (hrest c hc).1

/-- Reads on behind the digits in front of the point. -/
def readBehind (negative : Bool) (significand : Nat) :
    List Char → Except JsonError (Number × List Char)
  | '.' :: rest => readFraction negative significand 0 rest
  | 'e' :: rest | 'E' :: rest => readExponent negative significand 0 rest
  | rest => (integerOf negative significand).map fun value => (value, rest)

/-- Digits without a superfluous zero are read as their number. -/
theorem readUnsigned_digits (negative : Bool) {digits : List Char} (hne : digits ≠ [])
    (hdigits : ∀ c ∈ digits, c.isDigit = true) (hleading : ∀ c rest, digits ≠ '0' :: c :: rest)
    (hmax : Nat.ofDigitChars 10 digits 0 ≤ maxInteger) {rest : List Char}
    (hrest : ∀ c ∈ rest.head?, c.isDigit = false) :
    readUnsigned negative (digits ++ rest) =
      readBehind negative (Nat.ofDigitChars 10 digits 0) rest := by
  rw [readUnsigned, span_digits hdigits hrest]
  split
  case h_1 heq => exact absurd (Prod.mk.inj heq).1 hne
  case h_2 heq => exact absurd (Prod.mk.inj heq).1 hne
  case h_3 heq => exact absurd (Prod.mk.inj heq).1 (hleading _ _)
  case h_4 digits rest' _ _ _ heq =>
    obtain ⟨rfl, rfl⟩ := Prod.mk.inj heq
    rw [takeDigits_eq hmax]
    dsimp only
    split
    case h_1 => rfl
    case h_2 => rfl
    case h_3 => rfl
    case h_4 hpoint he hE =>
      rw [readBehind]
      · cases integerOf negative (Nat.ofDigitChars 10 digits 0) with
        | ok value => rfl
        | error e => rfl
      · exact hpoint
      · exact he
      · exact hE

theorem readBehind_of_endsNumber (negative : Bool) (significand : Nat) {rest : List Char}
    (hrest : EndsNumber rest) :
    readBehind negative significand rest =
      (integerOf negative significand).map fun value => (value, rest) := by
  rw [readBehind]
  · rintro rest' rfl
    exact (hrest '.' rfl).2.1 rfl
  · rintro rest' rfl
    exact (hrest 'e' rfl).2.2.1 rfl
  · rintro rest' rfl
    exact (hrest 'E' rfl).2.2.2 rfl

/-- The digits of a number of 64 bits are read as that number. -/
theorem readUnsigned_toDigits (negative : Bool) {n : Nat} (hn : n ≤ maxInteger) {rest : List Char}
    (hrest : EndsNumber rest) :
    readUnsigned negative (Nat.toDigits 10 n ++ rest) =
      (integerOf negative n).map fun value => (value, rest) := by
  have hvalue : Nat.ofDigitChars 10 (Nat.toDigits 10 n) 0 = n :=
    Nat.ofDigitChars_toDigits (by decide) (by decide)
  have hzero : ∀ c rest, Nat.toDigits 10 n ≠ '0' :: c :: rest := by
    intro c rest heq
    rcases Nat.eq_zero_or_pos n with rfl | hpos
    · simp at heq
    · exact head?_toDigits hpos (by rw [heq]; rfl)
  rw [readUnsigned_digits negative Nat.toDigits_ne_nil
    (fun _ hc => Nat.isDigit_of_mem_toDigits (by decide) (by decide) hc) hzero
    (by rw [hvalue]; exact hn) fun c hc => (hrest c hc).1, hvalue,
    readBehind_of_endsNumber negative n hrest]

theorem text_ofNat (n : Nat) : (Number.int (.ofNat n)).text.toList = Nat.toDigits 10 n :=
  Nat.toList_repr

theorem text_negSucc (n : Nat) :
    (Number.int (.negSucc n)).text.toList = '-' :: Nat.toDigits 10 (n + 1) := by
  show ("-" ++ Nat.repr (n + 1)).toList = _
  rw [String.toList_append, Nat.toList_repr]
  rfl

/-- An integer starts with a digit or with its sign. -/
theorem exists_text_eq_cons (n : Int) :
    ∃ c digits, (Number.int n).text.toList = c :: digits ∧ (c = '-' ∨ c.isDigit = true) := by
  cases n with
  | ofNat n =>
    obtain ⟨c, digits, heq, hc⟩ := exists_toDigits_eq_cons n
    exact ⟨c, digits, by rw [text_ofNat, heq], .inr hc⟩
  | negSucc n => exact ⟨'-', Nat.toDigits 10 (n + 1), text_negSucc n, .inl rfl⟩

/-- An integer is read as it was written. -/
theorem readNumber_text {n : Int} (hn : IsWord64 n) {rest : List Char} (hrest : EndsNumber rest) :
    readNumber ((Number.int n).text.toList ++ rest) = .ok (.int n, rest) := by
  obtain ⟨hge, hlt⟩ := hn
  cases n with
  | ofNat n =>
    have hmax : n ≤ maxInteger := by
      have hcast : (n : Int) < 2 ^ 64 := hlt
      show n ≤ 2 ^ 64 - 1
      omega
    obtain ⟨c, digits, heq, hc⟩ := exists_toDigits_eq_cons n
    have hminus : c ≠ '-' := by
      rintro rfl
      simp at hc
    have hread := readUnsigned_toDigits false hmax hrest
    rw [text_ofNat]
    rw [heq] at hread ⊢
    rw [readNumber, hread]
    · rfl
    · intro rest' h
      exact hminus (List.cons.inj h).1
  | negSucc n =>
    have hmin : n + 1 ≤ 2 ^ 63 := by omega
    have hmax : n + 1 ≤ maxInteger := by
      show n + 1 ≤ 2 ^ 64 - 1
      omega
    have hinteger : integerOf true (n + 1) = .ok (.int (.negSucc n)) := by
      have hsmall : ¬(n + 1 = 0 ∨ Nat.pow 2 63 < n + 1) := by
        show ¬(n + 1 = 0 ∨ 2 ^ 63 < n + 1)
        omega
      rw [integerOf, if_neg (by decide), if_neg hsmall]
      rfl
    rw [text_negSucc, List.cons_append, readNumber, readUnsigned_toDigits true hmax hrest, hinteger]
    rfl

end CodeSearch.Json
