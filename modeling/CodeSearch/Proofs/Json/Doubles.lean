import CodeSearch.Proofs.Decimal.Reading
import CodeSearch.Proofs.Decimal.Shortest
import CodeSearch.Proofs.Json.Scalars

/-!
# Doubles are read as doubles

What is written for a double is read as a double again (`exists_readNumber_float`), though not always
as the same one: a reader takes digits as long as 64 bits hold them and rounds more than once.  What
matters is that no reading is refused as too large.  Below the three largest doubles of each sign no
rounding can lead so far; for these three the readings are computed.
-/

namespace CodeSearch.Json

open Decimal (Binary64 Numeral Style)

/-! ## Digits -/

/-- Digits are taken as far as 64 bits hold them, and never stand for more than all of them. -/
theorem takeDigits_bounds (digits : List Char) {n : ℕ} (hn : n ≤ maxInteger) :
    (takeDigits n digits).1 ≤ maxInteger ∧ (takeDigits n digits).2.length ≤ digits.length ∧
      10 ^ (takeDigits n digits).2.length * (takeDigits n digits).1 ≤
        Nat.ofDigitChars 10 digits n := by
  induction digits generalizing n with
  | nil => simpa [takeDigits] using hn
  | cons c digits ih =>
    rw [takeDigits]
    split
    case isTrue => exact ⟨hn, le_rfl, Decimal.pow_mul_le_ofDigitChars _ _⟩
    case isFalse hfit =>
      obtain ⟨hmax, hlength, hvalue⟩ := ih (not_lt.mp hfit)
      rw [Nat.ofDigitChars_cons, Nat.mul_comm 10 n]
      exact ⟨hmax, hlength.trans (Nat.le_succ _), hvalue⟩

/-- The significand that digits are taken into, and the power of ten that it counts. -/
def taken (n : ℕ) (digits : List Char) : ℕ × ℤ :=
  ((takeDigits n digits).1, -(digits.length - (takeDigits n digits).2.length : ℕ))

/-- Reads on behind the digits of a numeral. -/
def readScaled (negative : Bool) (mantissa : ℕ × ℤ) :
    List Char → Except JsonError (Number × List Char)
  | 'e' :: rest | 'E' :: rest => readExponent negative mantissa.1 mantissa.2 rest
  | rest => (floatOf negative mantissa.1 mantissa.2).map fun value => (value, rest)

theorem readScaled_of_endsNumber (negative : Bool) (mantissa : ℕ × ℤ) {rest : List Char}
    (hrest : EndsNumber rest) :
    readScaled negative mantissa rest =
      (floatOf negative mantissa.1 mantissa.2).map fun value => (value, rest) := by
  rw [readScaled]
  · rintro rest' rfl
    exact (hrest 'e' rfl).2.2.1 rfl
  · rintro rest' rfl
    exact (hrest 'E' rfl).2.2.2 rfl

/-- Digits behind the point are taken behind those in front of it. -/
theorem readFraction_digits (negative : Bool) (n : ℕ) {digits : List Char} (hne : digits ≠ [])
    (hdigits : ∀ c ∈ digits, c.isDigit = true) {rest : List Char}
    (hrest : ∀ c ∈ rest.head?, c.isDigit = false) :
    readFraction negative n 0 (digits ++ rest) = readScaled negative (taken n digits) rest := by
  rw [readFraction, span_digits hdigits hrest]
  split
  case h_1 heq => exact absurd (Prod.mk.inj heq).1 hne
  case h_2 heq => exact absurd (Prod.mk.inj heq).1 hne
  case h_3 digits rest' _ _ heq =>
    obtain ⟨rfl, rfl⟩ := Prod.mk.inj heq
    dsimp only
    rw [Int.zero_sub]
    split
    case h_1 => rfl
    case h_2 => rfl
    case h_3 he hE =>
      rw [readScaled, taken]
      · cases floatOf negative (takeDigits n digits).1 _ with
        | ok value => rfl
        | error e => rfl
      · exact he
      · exact hE

/-- The digits of an exponent are read as its number. -/
theorem foldl_toDigits (n : ℕ) :
    (Nat.toDigits 10 n).foldl (fun n c => n * 10 + (c.toNat - 48)) 0 = n := by
  have hfoldl (digits : List Char) :
      digits.foldl (fun n c => n * 10 + (c.toNat - 48)) 0 = Nat.ofDigitChars 10 digits 0 := by
    rw [Nat.ofDigitChars_eq_foldl]
    congr 1
    funext n c
    rw [Nat.mul_comm]
    rfl
  rw [hfoldl, Nat.ofDigitChars_toDigits (by decide) (by decide)]

/-- The number of a significand whose power of ten is shifted. -/
def shifted (negative : Bool) (significand : ℕ) (exponent e : ℤ) : Except JsonError Number :=
  if Nat.pow 2 31 ≤ e.natAbs then
    if significand ≠ 0 ∧ 0 ≤ e then .error .numberOutOfRange
    else .ok (.float ⟨negative, 0, -1074⟩)
  else floatOf negative significand (exponent + e)

theorem readShift_toDigits (negative : Bool) (significand : ℕ) (exponent e : ℤ)
    {rest : List Char} (hrest : EndsNumber rest) :
    readShift negative significand exponent (e < 0) (Nat.toDigits 10 e.natAbs ++ rest) =
      (shifted negative significand exponent e).map fun value => (value, rest) := by
  rw [readShift, span_toDigits _ hrest]
  split
  case h_1 heq => exact absurd (Prod.mk.inj heq).1 Nat.toDigits_ne_nil
  case h_2 heq => exact absurd (Prod.mk.inj heq).1 Nat.toDigits_ne_nil
  case h_3 digits rest' _ _ heq =>
    obtain ⟨rfl, rfl⟩ := Prod.mk.inj heq
    have hsum : (if decide (e < 0) = true then exponent - (e.natAbs : ℤ) else exponent + e.natAbs) =
        exponent + e := by
      simp only [decide_eq_true_eq]
      split <;> omega
    dsimp only
    rw [foldl_toDigits, shifted, hsum]
    simp only [decide_eq_true_eq, not_lt]
    split
    case isTrue => split <;> rfl
    case isFalse => cases floatOf negative significand (exponent + e) <;> rfl

theorem readExponent_toDigits (negative : Bool) (significand : ℕ) (exponent e : ℤ)
    {rest : List Char} (hrest : EndsNumber rest) :
    readExponent negative significand exponent
        ((if e < 0 then '-' else '+') :: (Nat.toDigits 10 e.natAbs ++ rest)) =
      (shifted negative significand exponent e).map fun value => (value, rest) := by
  rw [← readShift_toDigits negative significand exponent e hrest]
  by_cases he : e < 0
  · rw [if_pos he, decide_eq_true he]
    rfl
  · rw [if_neg he, decide_eq_false he]
    rfl

section Numerals

variable {n : Numeral} (h : n.WellFormed)
include h

theorem whole_le_maxInteger : Nat.ofDigitChars 10 n.whole 0 ≤ maxInteger := by
  have hlt := Decimal.ofDigitChars_lt h.isDigit_whole
  have hlength : 10 ^ n.whole.length ≤ 10 ^ 16 := Nat.pow_le_pow_right (by decide) h.length_whole
  show _ ≤ 2 ^ 64 - 1
  omega

/-- What the digits of a numeral are taken for. -/
def mantissa (n : Numeral) : ℕ × ℤ := taken (Nat.ofDigitChars 10 n.whole 0) n.fraction

/-- The digits that are taken do not stand for more than the numeral. -/
theorem mantissa_le : (mantissa n).1 < 2 ^ 64 ∧
    ((mantissa n).1 : ℚ) * 10 ^ ((mantissa n).2 + n.exponent.getD 0) ≤ n.value := by
  obtain ⟨hmax, hlength, hvalue⟩ := takeDigits_bounds n.fraction (whole_le_maxInteger h)
  refine ⟨Nat.lt_of_le_pred (by positivity) hmax, ?_⟩
  rw [mantissa, taken, Numeral.value, Numeral.digitsValue, Nat.ofDigitChars_append]
  generalize takeDigits (Nat.ofDigitChars 10 n.whole 0) n.fraction = taken at *
  have hcast : ((10 ^ taken.2.length * taken.1 : ℕ) : ℚ) ≤
      (Nat.ofDigitChars 10 n.fraction (Nat.ofDigitChars 10 n.whole 0) : ℕ) := by
    exact_mod_cast hvalue
  have hscale : -((n.fraction.length - taken.2.length : ℕ) : ℤ) + n.exponent.getD 0 =
      taken.2.length + (n.exponent.getD 0 - n.fraction.length) := by omega
  rw [hscale, zpow_add₀ (by norm_num), zpow_natCast, ← mul_assoc, mul_comm (taken.1 : ℚ)]
  push_cast at hcast
  gcongr

theorem readUnsigned_whole (negative : Bool) {rest : List Char} (hrest : EndsNumber rest) :
    readUnsigned negative (n.whole ++ (n.fractionChars ++ (n.exponentChars ++ rest))) =
      readScaled negative (mantissa n) (n.exponentChars ++ rest) := by
  have htail : ∀ c ∈ (n.exponentChars ++ rest).head?, c.isDigit = false := by
    intro c hc
    rw [Numeral.exponentChars] at hc
    split at hc
    case h_1 => exact (hrest c hc).1
    case h_2 =>
      obtain rfl : 'e' = c := by simpa using hc
      decide
  have hdigits {rest : List Char} (hrest : ∀ c ∈ rest.head?, c.isDigit = false) :=
    readUnsigned_digits negative h.whole_ne_nil h.isDigit_whole h.leading (whole_le_maxInteger h)
      hrest
  by_cases hfraction : n.fraction = []
  · obtain ⟨e, he⟩ : ∃ e, n.exponent = some e :=
      Option.ne_none_iff_exists'.mp fun hnone => h.isFloat hnone hfraction
    rw [Numeral.fractionChars, if_pos hfraction, List.nil_append, hdigits htail, mantissa, hfraction,
      Numeral.exponentChars, he]
    rfl
  · rw [Numeral.fractionChars, if_neg hfraction, List.cons_append, hdigits (by simp)]
    exact readFraction_digits negative _ hfraction h.isDigit_fraction htail

/-- The number that a numeral is read as. -/
def numberOf (negative : Bool) (n : Numeral) : Except JsonError Number :=
  match n.exponent with
  | none => floatOf negative (mantissa n).1 (mantissa n).2
  | some e => shifted negative (mantissa n).1 (mantissa n).2 e

/-- A numeral is read as its number. -/
theorem readUnsigned_numeral (negative : Bool) {rest : List Char} (hrest : EndsNumber rest) :
    readUnsigned negative (n.chars ++ rest) =
      (numberOf negative n).map fun value => (value, rest) := by
  rw [Numeral.chars, List.append_assoc, List.append_assoc, readUnsigned_whole h negative hrest,
    Numeral.exponentChars, numberOf]
  cases n.exponent with
  | none => exact readScaled_of_endsNumber negative (mantissa n) hrest
  | some e => exact readExponent_toDigits negative (mantissa n).1 (mantissa n).2 e hrest

/-- A sign is read before a numeral. -/
theorem readNumber_numeral (negative : Bool) {rest : List Char} (hrest : EndsNumber rest) :
    readNumber ((if negative then ['-'] else []) ++ n.chars ++ rest) =
      (numberOf negative n).map fun value => (value, rest) := by
  rw [← readUnsigned_numeral h negative hrest]
  cases negative with
  | true => rfl
  | false =>
    obtain ⟨c, digits, hwhole⟩ := List.exists_cons_of_ne_nil h.whole_ne_nil
    have hc : c.isDigit = true := h.isDigit_whole c (hwhole ▸ List.mem_cons_self)
    have hminus : c ≠ '-' := by
      rintro rfl
      simp at hc
    rw [if_neg Bool.false_ne_true, List.nil_append, Numeral.chars, hwhole, List.cons_append,
      List.cons_append, List.cons_append, readNumber]
    exact fun rest h => hminus (List.cons.inj h).1

omit h in
/-- A numeral is a double unless it is rounded to nothing. -/
theorem exists_numberOf {negative : Bool} (hexponent : ∀ e ∈ n.exponent, e < 2 ^ 31)
    (hround : (Binary64.ofDecimal? negative (mantissa n).1
      ((mantissa n).2 + n.exponent.getD 0)).isSome = true) :
    ∃ y, numberOf negative n = .ok (.float y) := by
  obtain ⟨y, hy⟩ := Option.isSome_iff_exists.mp hround
  have hfloat : floatOf negative (mantissa n).1 ((mantissa n).2 + n.exponent.getD 0) =
      .ok (.float y) := by
    rw [floatOf, hy]
  rw [numberOf]
  cases he : n.exponent with
  | none =>
    rw [he, Option.getD_none, add_zero] at hfloat
    exact ⟨y, hfloat⟩
  | some e =>
    rw [he, Option.getD_some] at hfloat
    have hlt : e < 2 ^ 31 := hexponent e he
    dsimp only
    rw [shifted]
    split
    case isTrue hlarge =>
      have hlarge : 2 ^ 31 ≤ e.natAbs := hlarge
      rw [if_neg fun hrefused => by omega]
      exact ⟨_, rfl⟩
    case isFalse => exact ⟨y, hfloat⟩

/-- A safe numeral is read as a double. -/
theorem exists_numberOf_of_le (negative : Bool) (hexponent : ∀ e ∈ n.exponent, e < 2 ^ 31)
    (hvalue : n.value ≤ Binary64.safe) : ∃ y, numberOf negative n = .ok (.float y) := by
  obtain ⟨hlt, hle⟩ := mantissa_le h
  exact exists_numberOf hexponent (Binary64.isSome_ofDecimal? negative hlt (hle.trans hvalue))

end Numerals

/-! ## Written doubles -/

open Decimal.Binary64 (safe two_zpow_pos)

/-- A double whose numeral is read as a double is read as that. -/
theorem exists_readNumber_of_numeral {x : Binary64} {n : Numeral} (h : n.WellFormed)
    (hchars : (Style.json.write x).toList = (if x.negative then ['-'] else []) ++ n.chars)
    (hnumber : ∃ y, numberOf x.negative n = .ok (.float y)) :
    ∃ y, ∀ rest, EndsNumber rest →
      readNumber ((Number.float x).text.toList ++ rest) = .ok (.float y, rest) := by
  obtain ⟨y, hy⟩ := hnumber
  refine ⟨y, fun rest hrest => ?_⟩
  rw [Number.text, hchars, readNumber_numeral h x.negative hrest, hy]
  rfl

/-- A half above a double that is not among the three largest ones is still safe. -/
theorem double_le_safe {x : Binary64} (hx : x.InRange)
    (hsmall : x.exponent ≤ 970 ∨ x.significand ≤ 2 ^ 53 - 4) :
    ((x.significand : ℚ) + 1 / 2) * 2 ^ x.exponent ≤ safe := by
  have hpow := two_zpow_pos 971
  rcases hsmall with hexponent | hsignificand
  · have hcast : (x.significand : ℚ) + 1 / 2 ≤ 2 ^ 53 := by
      have : (x.significand : ℚ) + 1 ≤ 2 ^ 53 := by exact_mod_cast hx.significand_lt
      linarith
    have hunit : (2 : ℚ) ^ x.exponent ≤ 2 ^ (970 : ℤ) :=
      zpow_le_zpow_right₀ (by norm_num) hexponent
    have htwice : (2 : ℚ) ^ (971 : ℤ) = 2 * 2 ^ (970 : ℤ) := Binary64.two_zpow_succ 970
    have hnonneg := two_zpow_pos 970
    calc ((x.significand : ℚ) + 1 / 2) * 2 ^ x.exponent ≤ 2 ^ 53 * 2 ^ (970 : ℤ) := by gcongr
      _ ≤ (2 * (2 ^ 53 - 7 / 2)) * 2 ^ (970 : ℤ) := by
        gcongr
        norm_num
      _ = safe := by
        rw [safe, htwice]
        ring
  · have hcast : (x.significand : ℚ) + 1 / 2 ≤ 2 ^ 53 - 7 / 2 := by
      have hle : x.significand + 4 ≤ 2 ^ 53 := by omega
      have : (x.significand : ℚ) + 4 ≤ 2 ^ 53 := by exact_mod_cast hle
      linarith
    have hunit : (2 : ℚ) ^ x.exponent ≤ 2 ^ (971 : ℤ) :=
      zpow_le_zpow_right₀ (by norm_num) hx.exponent_le
    calc ((x.significand : ℚ) + 1 / 2) * 2 ^ x.exponent
        ≤ (2 ^ 53 - 7 / 2) * 2 ^ (971 : ℤ) :=
          mul_le_mul hcast hunit (two_zpow_pos _).le (by norm_num)
      _ = safe := by rw [safe]

theorem wellFormed_zero : Numeral.WellFormed ⟨['0'], ['0'], none⟩ where
  whole_ne_nil := by simp
  isDigit_whole := by simp
  isDigit_fraction := by simp
  length_whole := by simp
  leading := by simp
  isFloat := by simp

theorem two_pow_le_safe : (2 : ℚ) ^ 53 ≤ safe := by
  have hpow : (2 : ℚ) ^ (1 : ℤ) ≤ 2 ^ (971 : ℤ) := zpow_le_zpow_right₀ (by norm_num) (by norm_num)
  calc (2 : ℚ) ^ 53 ≤ (2 ^ 53 - 7 / 2) * 2 ^ (1 : ℤ) := by norm_num
    _ ≤ (2 ^ 53 - 7 / 2) * 2 ^ (971 : ℤ) := mul_le_mul_of_nonneg_left hpow (by norm_num)
    _ = safe := by rw [safe]

/-- A safe double is read as a double from what is written for it. -/
theorem exists_readNumber_of_safe {x : Binary64} (hx : x.InRange)
    (hsafe : ((x.significand : ℚ) + 1 / 2) * 2 ^ x.exponent ≤ safe) :
    ∃ y, ∀ rest, EndsNumber rest →
      readNumber ((Number.float x).text.toList ++ rest) = .ok (.float y, rest) := by
  rcases x.significand.eq_zero_or_pos with hzero | hpos
  · refine exists_readNumber_of_numeral wellFormed_zero ?_
      (exists_numberOf_of_le wellFormed_zero x.negative (by simp) ?_)
    · rw [Style.write, if_pos hzero]
      cases x.negative <;> rfl
    · have hvalue : Numeral.value ⟨['0'], ['0'], none⟩ = 0 := by
        rw [Numeral.value, Numeral.digitsValue]
        exact zero_mul _
      rw [hvalue]
      exact le_trans (by norm_num) two_pow_le_safe
  · obtain ⟨n, hwellFormed, hvalue, hexponent, hchars⟩ := Style.exists_numeral_write hpos
    have hinteger : (x.significand : ℚ) ≤ safe := by
      refine le_trans ?_ two_pow_le_safe
      exact_mod_cast hx.significand_lt.le
    have hle : n.value ≤ safe := hvalue ▸ Decimal.shortest_le hinteger hsafe
    refine exists_readNumber_of_numeral hwellFormed hchars
      (exists_numberOf_of_le hwellFormed x.negative (fun e he => ?_) hle)
    have hlt : (10 : ℚ) ^ e < 10 ^ ((309 : ℕ) : ℤ) := by
      rw [zpow_natCast]
      exact ((hexponent e he).trans hle).trans_lt
        (Binary64.safe_lt_largest.trans (Binary64.largest_lt_ten_pow (by decide)))
    have := (zpow_lt_zpow_iff_right₀ (by norm_num)).mp hlt
    omega

/-- What is written for the largest doubles, but for the last digit. -/
def largestNumeral (last : Char) : Numeral := ⟨['1'], "797693134862315".toList ++ [last], some 308⟩

theorem wellFormed_largestNumeral {last : Char} (hlast : last.isDigit = true) :
    (largestNumeral last).WellFormed where
  whole_ne_nil := List.cons_ne_nil _ _
  isDigit_whole c hc := by
    rw [List.mem_singleton.mp hc]
    decide
  isDigit_fraction c hc := by
    rcases List.mem_append.mp hc with hc | hc
    · have hall : "797693134862315".toList.all Char.isDigit = true := by decide
      exact List.all_eq_true.mp hall c hc
    · exact List.mem_singleton.mp hc ▸ hlast
  length_whole := show 1 ≤ 16 by decide
  leading := by
    rintro c rest ⟨⟩
  isFloat := by
    rintro ⟨⟩

/-- The three largest doubles of each sign are rounded no further than to the largest one. -/
theorem write_largest : ∀ negative : Bool,
    ∀ p ∈ [(2 ^ 53 - 1, '7'), (2 ^ 53 - 2, '5'), (2 ^ 53 - 3, '3')], p.2.isDigit = true ∧
      (Style.json.write ⟨negative, p.1, 971⟩).toList =
        (if negative then ['-'] else []) ++ (largestNumeral p.2).chars ∧
      (Binary64.ofDecimal? negative (mantissa (largestNumeral p.2)).1
        ((mantissa (largestNumeral p.2)).2 + 308)).isSome = true := by
  decide +kernel

/-- A double is read as a double from what is written for it. -/
theorem exists_readNumber_float {x : Binary64} (hx : x.InRange) :
    ∃ y, ∀ rest, EndsNumber rest →
      readNumber ((Number.float x).text.toList ++ rest) = .ok (.float y, rest) := by
  obtain ⟨negative, significand, exponent⟩ := x
  have hlt : significand < 2 ^ 53 := hx.significand_lt
  have hle : exponent ≤ 971 := hx.exponent_le
  by_cases hlargest : 970 < exponent ∧ 2 ^ 53 - 4 < significand
  · obtain rfl : exponent = 971 := by omega
    obtain ⟨last, hlast⟩ : ∃ last, (significand, last) ∈
        [(2 ^ 53 - 1, '7'), (2 ^ 53 - 2, '5'), (2 ^ 53 - 3, '3')] := by
      have hcases : significand = 2 ^ 53 - 1 ∨ significand = 2 ^ 53 - 2 ∨ significand = 2 ^ 53 - 3 := by
        omega
      rcases hcases with rfl | rfl | rfl
      · exact ⟨'7', by simp⟩
      · exact ⟨'5', by simp⟩
      · exact ⟨'3', by simp⟩
    obtain ⟨hdigit, hchars, hround⟩ := write_largest negative _ hlast
    refine exists_readNumber_of_numeral (wellFormed_largestNumeral hdigit) hchars
      (exists_numberOf ?_ hround)
    rintro e ⟨⟩
    norm_num
  · exact exists_readNumber_of_safe hx (double_le_safe hx (by dsimp only; omega))

end CodeSearch.Json
