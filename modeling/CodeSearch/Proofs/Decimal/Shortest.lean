import CodeSearch.Decimal.Shortest
import CodeSearch.Proofs.Decimal.Digits
import CodeSearch.Proofs.Decimal.Rounding

/-!
# What is written for a double

The digits of `shortest` are not zero and exceed a double by a half of its last place at most
(`shortest_pos`, `shortest_le`).  A style lays digits out as a `Numeral`, which has the value of the
digits whatever form is chosen (`Style.exists_numeral`).
-/

namespace CodeSearch.Decimal

/-! ## Shortest digits -/

theorem inTens_ratio (num : ℕ) {den : ℕ} (hden : 0 < den) (exponent : ℤ) :
    0 < (inTens num den exponent).2 ∧
      ((inTens num den exponent).1 : ℚ) / (inTens num den exponent).2 =
        num / den / 10 ^ exponent := by
  have h := ratio_in_units (show 0 < 10 by decide) num hden exponent
  rw [Nat.cast_ofNat] at h
  exact h

/-- A decimal that rounds to a double lies between the ends of its interval. -/
theorem bounds_of_roundsTo {x : Binary64} {digits : ℕ} {tens : ℤ}
    (h : roundsTo x digits tens = true) :
    ((roundingInterval x).1 : ℚ) * 2 ^ (x.exponent - 2) ≤ digits * 10 ^ tens ∧
      (digits : ℚ) * 10 ^ tens ≤ (roundingInterval x).2.1 * 2 ^ (x.exponent - 2) := by
  obtain ⟨hd, hvalue⟩ := inTens_ratio digits Nat.one_pos (-tens)
  obtain ⟨hunit, hratio⟩ :=
    Binary64.inUnits_ratio (inTens digits 1 (-tens)).1 hd (x.exponent - 2)
  have hpow := Binary64.two_zpow_pos (x.exponent - 2)
  rw [hvalue, Nat.cast_one, div_one, zpow_neg, div_inv_eq_mul] at hratio
  rw [← le_div_iff₀ hpow, ← div_le_iff₀ hpow, ← hratio, le_div_iff₀ (by exact_mod_cast hunit),
    div_le_iff₀ (by exact_mod_cast hunit)]
  rw [roundsTo] at h
  dsimp only at h
  split at h
  case isTrue =>
    rw [Bool.and_eq_true, decide_eq_true_eq, decide_eq_true_eq] at h
    exact ⟨by exact_mod_cast h.1, by exact_mod_cast h.2⟩
  case isFalse =>
    rw [Bool.and_eq_true, decide_eq_true_eq, decide_eq_true_eq] at h
    exact ⟨by exact_mod_cast h.1.le, by exact_mod_cast h.2.le⟩

/-- A decimal that rounds to a double exceeds it by a half of its last place at most. -/
theorem le_of_roundsTo {x : Binary64} {digits : ℕ} {tens : ℤ} (h : roundsTo x digits tens = true) :
    (digits : ℚ) * 10 ^ tens ≤ (x.significand + 1 / 2) * 2 ^ x.exponent := by
  refine (bounds_of_roundsTo h).2.trans (le_of_eq ?_)
  rw [roundingInterval, zpow_sub₀ (by norm_num)]
  push_cast
  ring

/-- Zero rounds to no other double. -/
theorem pos_of_roundsTo {x : Binary64} (hx : 0 < x.significand) {digits : ℕ} {tens : ℤ}
    (h : roundsTo x digits tens = true) : 0 < digits := by
  by_contra hzero
  obtain rfl : digits = 0 := by omega
  have hlow : 0 < (roundingInterval x).1 := by
    rw [roundingInterval]
    dsimp only
    split <;> omega
  have hpow := Binary64.two_zpow_pos (x.exponent - 2)
  have hcast : (0 : ℚ) < (roundingInterval x).1 := by exact_mod_cast hlow
  have hbound := (bounds_of_roundsTo h).1
  have := mul_pos hcast hpow
  rw [Nat.cast_zero, zero_mul] at hbound
  linarith

/-- What is tried on the grid of a power of ten rounds to the double. -/
theorem roundsTo_of_decimalAt? {x : Binary64} {num den digits : ℕ} {grid tens : ℤ}
    (h : decimalAt? x num den grid = some (digits, tens)) : roundsTo x digits tens = true := by
  rw [decimalAt?] at h
  dsimp only at h
  split at h
  case h_1 hbelow habove =>
    obtain ⟨rfl, rfl⟩ := Prod.mk.inj (Option.some.inj h)
    rcases roundHalfEven_cases (inTens num den grid).1 (inTens num den grid).2 with heq | heq
    · rwa [heq]
    · rwa [heq]
  case h_2 hbelow _ =>
    obtain ⟨rfl, rfl⟩ := Prod.mk.inj (Option.some.inj h)
    exact hbelow
  case h_3 _ habove =>
    obtain ⟨rfl, rfl⟩ := Prod.mk.inj (Option.some.inj h)
    exact habove
  case h_4 => simp at h

/-- The shortest decimal rounds to the double, unless its own integer stands in. -/
theorem shortest_cases (x : Binary64) :
    roundsTo x (shortest x).1 (shortest x).2 = true ∨ shortest x = (x.significand, 0) := by
  rw [shortest]
  dsimp only
  generalize hfound : (List.range 17).findSome? _ = found
  cases found with
  | none => exact .inr rfl
  | some decimal =>
    obtain ⟨count, -, heq⟩ := List.exists_of_findSome?_eq_some hfound
    exact .inl (roundsTo_of_decimalAt? heq)

theorem shortest_pos {x : Binary64} (hx : 0 < x.significand) : 0 < (shortest x).1 := by
  rcases shortest_cases x with h | h
  · exact pos_of_roundsTo hx h
  · rw [h]
    exact hx

/-- The shortest decimal is below every bound of the double and its integer. -/
theorem shortest_le {x : Binary64} {bound : ℚ} (hinteger : x.significand ≤ bound)
    (hdouble : (x.significand + 1 / 2) * 2 ^ x.exponent ≤ bound) :
    ((shortest x).1 : ℚ) * 10 ^ (shortest x).2 ≤ bound := by
  rcases shortest_cases x with h | h
  · exact (le_of_roundsTo h).trans hdouble
  · rw [h, zpow_zero, mul_one]
    exact hinteger

/-! ## Numerals -/

/-- A written decimal. -/
structure Numeral where
  /-- The digits in front of the point. -/
  whole : List Char
  /-- The digits behind the point. -/
  fraction : List Char
  /-- The exponent, if it is written. -/
  exponent : Option ℤ

namespace Numeral

/-- The characters of the point and what is behind it. -/
def fractionChars (n : Numeral) : List Char := if n.fraction = [] then [] else '.' :: n.fraction

/-- The characters of the exponent, with its sign. -/
def exponentChars (n : Numeral) : List Char :=
  match n.exponent with
  | none => []
  | some e => 'e' :: (if e < 0 then '-' else '+') :: Nat.toDigits 10 e.natAbs

def chars (n : Numeral) : List Char := n.whole ++ n.fractionChars ++ n.exponentChars

/-- The value of digits that end with some power of ten. -/
def digitsValue (digits : List Char) (last : ℤ) : ℚ := Nat.ofDigitChars 10 digits 0 * 10 ^ last

def value (n : Numeral) : ℚ :=
  digitsValue (n.whole ++ n.fraction) (n.exponent.getD 0 - n.fraction.length)

/-- A numeral has no superfluous zeros in front, and a point or an exponent. -/
structure WellFormed (n : Numeral) : Prop where
  whole_ne_nil : n.whole ≠ []
  isDigit_whole : ∀ c ∈ n.whole, c.isDigit = true
  isDigit_fraction : ∀ c ∈ n.fraction, c.isDigit = true
  length_whole : n.whole.length ≤ 16
  leading : ∀ c rest, n.whole ≠ '0' :: c :: rest
  isFloat : n.exponent = none → n.fraction ≠ []

end Numeral

open Numeral (digitsValue)

/-- Zeros at the end stand for powers of ten. -/
theorem digitsValue_append_zeros (digits : List Char) (count : ℕ) (last : ℤ) :
    digitsValue (digits ++ List.replicate count '0') last = digitsValue digits (last + count) := by
  rw [digitsValue, digitsValue, ofDigitChars_append_zeros, zpow_add₀ (by norm_num), zpow_natCast]
  push_cast
  ring

theorem digitsValue_zeros_append (count : ℕ) (digits : List Char) (last : ℤ) :
    digitsValue (List.replicate count '0' ++ digits) last = digitsValue digits last := by
  rw [digitsValue, digitsValue, ofDigitChars_zeros_append]

/-- A numeral that is written for digits, the first one counting `10 ^ first`. -/
structure Numeral.IsFor (n : Numeral) (digits : List Char) (first : ℤ) : Prop
    extends n.WellFormed where
  value_eq : n.value = digitsValue digits (first + 1 - digits.length)
  exponent_eq : ∀ e ∈ n.exponent, e = first

section Layout

variable {d : Char} {rest : List Char} {first : ℤ}

theorem Numeral.isFor_below_one (hdigits : ∀ c ∈ d :: rest, c.isDigit = true) (hfirst : first < 0) :
    Numeral.IsFor ⟨['0'], List.replicate (-first - 1).toNat '0' ++ d :: rest, none⟩ (d :: rest)
      first where
  whole_ne_nil := by simp
  isDigit_whole := by simp
  isDigit_fraction c hc := by
    rcases List.mem_append.mp hc with hc | hc
    · rw [List.eq_of_mem_replicate hc]
      decide
    · exact hdigits c hc
  length_whole := by simp
  leading := by simp
  isFloat := by simp
  value_eq := by
    rw [Numeral.value, ← List.append_assoc, ← List.replicate_one, List.replicate_append_replicate,
      digitsValue_zeros_append]
    congr 1
    simp only [Option.getD_none, List.length_append, List.length_replicate]
    push_cast
    omega
  exponent_eq := by simp

theorem Numeral.isFor_integer (hdigits : ∀ c ∈ d :: rest, c.isDigit = true) (hzero : d ≠ '0')
    (hfirst : first ≤ 15) (hlength : (d :: rest).length ≤ first + 1) :
    Numeral.IsFor ⟨(d :: rest) ++ List.replicate (first + 1 - (d :: rest).length).toNat '0', ['0'],
      none⟩ (d :: rest) first where
  whole_ne_nil := by simp
  isDigit_whole c hc := by
    rcases List.mem_append.mp hc with hc | hc
    · exact hdigits c hc
    · rw [List.eq_of_mem_replicate hc]
      decide
  isDigit_fraction := by simp
  length_whole := by
    rw [List.length_append, List.length_replicate]
    omega
  leading c rest h := hzero (List.cons.inj h).1
  isFloat := by simp
  value_eq := by
    rw [Numeral.value, List.append_assoc, ← List.replicate_one, List.replicate_append_replicate,
      digitsValue_append_zeros]
    congr 1
    simp only [Option.getD_none, List.length_replicate]
    push_cast
    omega
  exponent_eq := by simp

theorem Numeral.isFor_point (hdigits : ∀ c ∈ d :: rest, c.isDigit = true) (hzero : d ≠ '0')
    (hfirst : first ≤ 15) (hnonneg : 0 ≤ first) (hlength : first + 1 < (d :: rest).length) :
    Numeral.IsFor ⟨(d :: rest).take (first + 1).toNat, (d :: rest).drop (first + 1).toNat, none⟩
      (d :: rest) first where
  whole_ne_nil := by
    rw [ne_eq, List.take_eq_nil_iff]
    simp
    omega
  isDigit_whole c hc := hdigits c (List.mem_of_mem_take hc)
  isDigit_fraction c hc := hdigits c (List.mem_of_mem_drop hc)
  length_whole := by
    rw [List.length_take]
    omega
  leading c others h := by
    rw [show (first + 1).toNat = first.toNat + 1 by omega, List.take_succ_cons] at h
    exact hzero (List.cons.inj h).1
  isFloat _ := by
    rw [ne_eq, List.drop_eq_nil_iff]
    omega
  value_eq := by
    rw [Numeral.value, List.take_append_drop]
    congr 1
    simp only [Option.getD_none, List.length_drop]
    omega
  exponent_eq := by simp

theorem Numeral.isFor_exponent (hdigits : ∀ c ∈ d :: rest, c.isDigit = true) :
    Numeral.IsFor ⟨[d], rest, some first⟩ (d :: rest) first where
  whole_ne_nil := by simp
  isDigit_whole c hc := hdigits c (List.mem_singleton.mp hc ▸ List.mem_cons_self)
  isDigit_fraction c hc := hdigits c (List.mem_cons_of_mem d hc)
  length_whole := by simp
  leading := by simp
  isFloat := by simp
  value_eq := by
    rw [Numeral.value, List.singleton_append]
    congr 1
    simp only [Option.getD_some, List.length_cons]
    push_cast
    omega
  exponent_eq := by simp

/-- JSON numbers are laid out as numerals. -/
theorem Style.exists_numeral (hdigits : ∀ c ∈ d :: rest, c.isDigit = true) (hzero : d ≠ '0')
    (first : ℤ) :
    ∃ n : Numeral, n.chars = Style.json.layout (d :: rest) first ∧ n.IsFor (d :: rest) first := by
  rw [Style.layout.eq_def]
  dsimp only
  split
  case isTrue hpositional =>
    have hgreatest : first ≤ 15 := hpositional.2
    split
    case isTrue hnegative =>
      exact ⟨_, by simp [Numeral.chars, Numeral.fractionChars, Numeral.exponentChars],
        Numeral.isFor_below_one hdigits hnegative⟩
    case isFalse hnegative =>
      split
      case isTrue hlength =>
        exact ⟨_, by simp [Numeral.chars, Numeral.fractionChars, Numeral.exponentChars],
          Numeral.isFor_integer hdigits hzero hgreatest hlength⟩
      case isFalse hlength =>
        have hfor := Numeral.isFor_point hdigits hzero hgreatest (not_lt.mp hnegative)
          (not_le.mp hlength)
        refine ⟨_, ?_, hfor⟩
        rw [Numeral.chars, Numeral.fractionChars, if_neg (hfor.isFloat rfl)]
        simp [Numeral.exponentChars]
  case isFalse =>
    refine ⟨_, ?_, Numeral.isFor_exponent hdigits⟩
    have hsign : (if first < 0 then "-" else if Style.json.plusSign then "+" else "").toList =
        [if first < 0 then '-' else '+'] := by
      split <;> rfl
    have hexponent : (toString first.natAbs).toList = Nat.toDigits 10 first.natAbs :=
      Nat.toList_repr
    rw [hsign, hexponent, Numeral.chars, Numeral.fractionChars, Numeral.exponentChars]
    cases rest <;> simp

end Layout

/-! ## Written doubles -/

/-- The power of ten that the first digit of a positive number counts is not above it. -/
theorem pow_length_toDigits_le {n : ℕ} (hn : 0 < n) : 10 ^ ((Nat.toDigits 10 n).length - 1) ≤ n := by
  rcases Nat.eq_zero_or_pos ((Nat.toDigits 10 n).length - 1) with hzero | hpos
  · rw [hzero]
    exact hn
  · by_contra hlt
    have := (Nat.length_toDigits_le_iff (by decide) hpos).mpr (not_le.mp hlt)
    omega

/-- A double other than zero is written as a numeral with the value of its shortest decimal. -/
theorem Style.exists_numeral_write {x : Binary64} (hx : 0 < x.significand) :
    ∃ n : Numeral, n.WellFormed ∧ n.value = (shortest x).1 * 10 ^ (shortest x).2 ∧
      (∀ e ∈ n.exponent, (10 : ℚ) ^ e ≤ n.value) ∧
      (Style.json.write x).toList = (if x.negative then ['-'] else []) ++ n.chars := by
  have hpos := shortest_pos hx
  have hwrite : (Style.json.write x).toList = (if x.negative then ['-'] else []) ++
      Style.json.layout (trimZeros (Nat.toDigits 10 (shortest x).1))
        ((shortest x).2 + (Nat.toDigits 10 (shortest x).1).length - 1) := by
    rw [Style.write, if_neg hx.ne', ← Nat.toList_repr, String.toList_append, String.toList_ofList]
    cases x.negative <;> rfl
  rw [hwrite]
  generalize (shortest x).1 = digits at hpos ⊢
  generalize (shortest x).2 = tens
  obtain ⟨count, hwritten⟩ := exists_eq_trimZeros_append (Nat.toDigits 10 digits)
  obtain ⟨d, rest, htrim, hzero, hdigits⟩ := exists_trimZeros_toDigits hpos
  rw [htrim] at hwritten ⊢
  generalize hfirst : tens + (Nat.toDigits 10 digits).length - 1 = first
  obtain ⟨n, hchars, hfor⟩ := Style.exists_numeral hdigits hzero first
  have hlength := congrArg List.length hwritten
  rw [List.length_append, List.length_replicate] at hlength
  have hvalue : n.value = digits * 10 ^ tens := by
    rw [hfor.value_eq, show first + 1 - (d :: rest).length = tens + count by omega,
      ← digitsValue_append_zeros, ← hwritten, digitsValue,
      Nat.ofDigitChars_toDigits (by decide) (by decide)]
  refine ⟨n, hfor.toWellFormed, hvalue, fun e he => ?_, by rw [hchars]⟩
  have hpow : ((10 ^ ((Nat.toDigits 10 digits).length - 1) : ℕ) : ℚ) ≤ digits := by
    exact_mod_cast pow_length_toDigits_le hpos
  have hne : 0 < (Nat.toDigits 10 digits).length := List.length_pos_iff.mpr Nat.toDigits_ne_nil
  rw [hvalue, hfor.exponent_eq e he,
    show first = ((Nat.toDigits 10 digits).length - 1 : ℕ) + tens by omega,
    zpow_add₀ (by norm_num), zpow_natCast]
  push_cast at hpow
  gcongr

end CodeSearch.Decimal
