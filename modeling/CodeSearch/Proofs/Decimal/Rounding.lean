import CodeSearch.Decimal.Binary64
import Mathlib.Algebra.Order.Field.Basic
import Mathlib.Algebra.Order.Field.Power
import Mathlib.Data.Rat.Cast.Order
import Mathlib.Tactic.FieldSimp
import Mathlib.Tactic.GCongr
import Mathlib.Tactic.Linarith
import Mathlib.Tactic.NormNum
import Mathlib.Tactic.Positivity
import Mathlib.Tactic.Ring

/-!
# Rounding to doubles

`Binary64.nearest?` rounds a ratio to 53 bits.  `IsRounding` says what the significand and the
exponent have to do with the value before a carry; from it follow the bounds that every double has
(`InRange`), that no value up to the largest double is refused (`isSome_nearest?`), and that rounding
raises a value from `1` on by the factor `1 + 2 ^ (-53)` at most (`magnitude_le_of_one_le`).
-/

namespace CodeSearch.Decimal

/-! ## Ratios in units -/

/-- A ratio in units of a power of a base. -/
theorem ratio_in_units {base : ℕ} (hbase : 0 < base) (num : ℕ) {den : ℕ} (hden : 0 < den)
    (exponent : ℤ) :
    let r := if 0 ≤ exponent then (num, den * base ^ exponent.toNat)
      else (num * base ^ (-exponent).toNat, den)
    0 < r.2 ∧ (r.1 : ℚ) / r.2 = num / den / (base : ℚ) ^ exponent := by
  have hb : (base : ℚ) ≠ 0 := by positivity
  dsimp only
  split
  case isTrue hexponent =>
    refine ⟨Nat.mul_pos hden (Nat.pow_pos hbase), ?_⟩
    have hpow : (base : ℚ) ^ exponent = base ^ exponent.toNat := by
      rw [← zpow_natCast, Int.toNat_of_nonneg hexponent]
    rw [hpow]
    push_cast
    rw [div_div]
  case isFalse hexponent =>
    refine ⟨hden, ?_⟩
    have hpow : (base : ℚ) ^ exponent = ((base : ℚ) ^ (-exponent).toNat)⁻¹ := by
      rw [← zpow_natCast, Int.toNat_of_nonneg (by omega), ← zpow_neg, neg_neg]
    rw [hpow]
    push_cast
    rw [div_inv_eq_mul]
    ring

theorem Binary64.inUnits_ratio (num : ℕ) {den : ℕ} (hden : 0 < den) (exponent : ℤ) :
    0 < (inUnits num den exponent).2 ∧
      ((inUnits num den exponent).1 : ℚ) / (inUnits num den exponent).2 =
        num / den / 2 ^ exponent :=
  ratio_in_units (by decide) num hden exponent

/-! ## Rounding to an integer -/

theorem roundHalfEven_cases (num den : ℕ) :
    roundHalfEven num den = num / den ∨ roundHalfEven num den = num / den + 1 := by
  rw [roundHalfEven]
  split
  · exact .inl rfl
  · split
    · exact .inr rfl
    · omega

/-- Rounding does not go beyond an integer that a value does not go beyond. -/
theorem roundHalfEven_le {num den bound : ℕ} (hden : 0 < den) (h : num ≤ bound * den) :
    roundHalfEven num den ≤ bound := by
  have hquotient : num / den ≤ bound := Nat.div_le_of_le_mul (by rwa [Nat.mul_comm])
  rcases hquotient.lt_or_eq with hlt | heq
  · rcases roundHalfEven_cases num den with h | h <;> omega
  · have hrest : num % den = 0 := by
      have := Nat.div_add_mod num den
      rw [heq, Nat.mul_comm] at this
      omega
    rw [roundHalfEven]
    simp only [hrest, Nat.mul_zero, hden, if_true]
    exact hquotient

/-- Nor does rounding fall below one. -/
theorem le_roundHalfEven {num den bound : ℕ} (hden : 0 < den) (h : bound * den ≤ num) :
    bound ≤ roundHalfEven num den := by
  have hquotient : bound ≤ num / den := (Nat.le_div_iff_mul_le hden).mpr h
  rcases roundHalfEven_cases num den with h | h <;> omega

/-- Rounding raises a value by a half at most. -/
theorem roundHalfEven_le_add_half {num den : ℕ} (hden : 0 < den) :
    (roundHalfEven num den : ℚ) ≤ num / den + 1 / 2 := by
  have hd : (0 : ℚ) < den := by exact_mod_cast hden
  have hvalue : (num : ℚ) / den = (num / den : ℕ) + ((num % den : ℕ) : ℚ) / den := by
    have hdivmod : (num : ℚ) = den * (num / den : ℕ) + (num % den : ℕ) := by
      exact_mod_cast (Nat.div_add_mod num den).symm
    field_simp
    linarith
  have hrest : 0 ≤ ((num % den : ℕ) : ℚ) / den := by positivity
  -- a value is raised only from the half on
  have hraised (h : den ≤ 2 * (num % den)) : (1 : ℚ) / 2 ≤ ((num % den : ℕ) : ℚ) / den := by
    rw [le_div_iff₀ hd]
    have : (den : ℚ) ≤ 2 * (num % den : ℕ) := by exact_mod_cast h
    linarith
  rw [hvalue, roundHalfEven]
  split
  case isTrue => linarith
  case isFalse hlow =>
    have hhalf := hraised (by omega)
    split
    case isTrue =>
      push_cast
      linarith
    case isFalse =>
      have hparity : (((num / den) % 2 : ℕ) : ℚ) ≤ 1 := by
        have : (num / den) % 2 ≤ 1 := by omega
        exact_mod_cast this
      push_cast at hparity ⊢
      linarith

/-! ## Rounding to a double -/

namespace Binary64

/-- The value of a double without its sign. -/
def magnitude (x : Binary64) : ℚ := x.significand * 2 ^ x.exponent

/-- The bounds of finite doubles. -/
structure InRange (x : Binary64) : Prop where
  significand_lt : x.significand < 2 ^ 53
  exponent_le : x.exponent ≤ 971

/-- The largest double. -/
def largest : ℚ := (2 ^ 53 - 1) * 2 ^ (971 : ℤ)

/-- A value that is rounded to a significand of 53 bits, or to `2 ^ 53`, in units of a power of
two. -/
structure IsRounding (value : ℚ) (exponent : ℤ) (significand : ℕ) : Prop where
  ge : -1074 ≤ exponent
  lt : value < 2 ^ 53 * 2 ^ exponent
  normal : exponent = -1074 ∨ 2 ^ 52 * 2 ^ exponent ≤ value
  near : (significand : ℚ) * 2 ^ exponent ≤ value + 2 ^ exponent / 2
  le_of_le : ∀ bound : ℕ, value ≤ bound * 2 ^ exponent → significand ≤ bound
  ge_of_ge : ∀ bound : ℕ, bound * 2 ^ exponent ≤ value → bound ≤ significand

/-- The double of a rounded significand, unless it is beyond the largest one. -/
def ofRounding? (negative : Bool) (exponent : ℤ) (significand : ℕ) : Option Binary64 :=
  if significand = 2 ^ 53 then
    if 971 < exponent + 1 then none else some ⟨negative, 2 ^ 52, exponent + 1⟩
  else if 971 < exponent then none else some ⟨negative, significand, exponent⟩

theorem ofRounding?_eq (negative : Bool) (exponent : ℤ) (significand : ℕ) :
    ofRounding? negative exponent significand =
      let (significand, exponent) := if significand = 2 ^ 53 then (2 ^ 52, exponent + 1)
        else (significand, exponent)
      if 971 < exponent then none else some ⟨negative, significand, exponent⟩ := by
  rw [ofRounding?]
  split <;> rfl

theorem two_zpow_pos (exponent : ℤ) : (0 : ℚ) < 2 ^ exponent := zpow_pos (by norm_num) exponent

theorem two_zpow_succ (exponent : ℤ) : (2 : ℚ) ^ (exponent + 1) = 2 * 2 ^ exponent := by
  rw [zpow_add_one₀ (by norm_num), mul_comm]

/-- A ratio lies between the powers of two next to the quotient of those of its terms. -/
theorem ratio_log2_bounds {num den : ℕ} (hnum : 0 < num) (hden : 0 < den) :
    (2 : ℚ) ^ ((num.log2 : ℤ) - den.log2 - 1) < num / den ∧
      (num : ℚ) / den < 2 ^ ((num.log2 : ℤ) - den.log2 + 1) := by
  have hd : (0 : ℚ) < den := by exact_mod_cast hden
  have hnumLow : (2 : ℚ) ^ num.log2 ≤ num := by exact_mod_cast Nat.log2_self_le hnum.ne'
  have hnumHigh : (num : ℚ) < 2 ^ (num.log2 + 1) := by exact_mod_cast Nat.lt_log2_self
  have hdenLow : (2 : ℚ) ^ den.log2 ≤ den := by exact_mod_cast Nat.log2_self_le hden.ne'
  have hdenHigh : (den : ℚ) < 2 ^ (den.log2 + 1) := by exact_mod_cast Nat.lt_log2_self
  constructor
  · rw [lt_div_iff₀ hd]
    calc (2 : ℚ) ^ ((num.log2 : ℤ) - den.log2 - 1) * den
        < 2 ^ ((num.log2 : ℤ) - den.log2 - 1) * 2 ^ (den.log2 + 1) := by gcongr
      _ = 2 ^ num.log2 := by
          rw [← zpow_natCast, ← zpow_natCast, ← zpow_add₀ (by norm_num)]
          congr 1
          push_cast
          ring
      _ ≤ num := hnumLow
  · rw [div_lt_iff₀ hd]
    calc (num : ℚ) < 2 ^ (num.log2 + 1) := hnumHigh
      _ = 2 ^ ((num.log2 : ℤ) - den.log2 + 1) * 2 ^ den.log2 := by
          rw [← zpow_natCast, ← zpow_natCast, ← zpow_add₀ (by norm_num)]
          congr 1
          push_cast
          ring
      _ ≤ 2 ^ ((num.log2 : ℤ) - den.log2 + 1) * den := by gcongr

/-- In units of `2 ^ exponent`, a value is rounded to the nearest integer. -/
theorem isRounding_of_inUnits {num den : ℕ} (hden : 0 < den) {exponent : ℤ}
    (hge : -1074 ≤ exponent) (hlt : (num : ℚ) / den < 2 ^ 53 * 2 ^ exponent)
    (hnormal : exponent = -1074 ∨ 2 ^ 52 * 2 ^ exponent ≤ (num : ℚ) / den) :
    IsRounding (num / den) exponent
      (roundHalfEven (inUnits num den exponent).1 (inUnits num den exponent).2) := by
  obtain ⟨hd, hratio⟩ := inUnits_ratio num hden exponent
  have hpow := two_zpow_pos exponent
  refine ⟨hge, hlt, hnormal, ?_, fun bound hbound => ?_, fun bound hbound => ?_⟩
  · have hhalf := @roundHalfEven_le_add_half (inUnits num den exponent).1 _ hd
    rw [hratio] at hhalf
    calc (roundHalfEven (inUnits num den exponent).1 (inUnits num den exponent).2 : ℚ) * 2 ^ exponent
        ≤ (num / den / 2 ^ exponent + 1 / 2) * 2 ^ exponent := by gcongr
      _ = num / den + 2 ^ exponent / 2 := by field_simp
  · apply roundHalfEven_le hd
    have hbound' : ((inUnits num den exponent).1 : ℚ) / (inUnits num den exponent).2 ≤ bound := by
      rw [hratio, div_le_iff₀ hpow]
      exact hbound
    rw [div_le_iff₀ (by exact_mod_cast hd)] at hbound'
    exact_mod_cast hbound'
  · apply le_roundHalfEven hd
    have hbound' : (bound : ℚ) ≤ (inUnits num den exponent).1 / (inUnits num den exponent).2 := by
      rw [hratio, le_div_iff₀ hpow]
      exact hbound
    rw [le_div_iff₀ (by exact_mod_cast hd)] at hbound'
    exact_mod_cast hbound'

/-- The whole units of a ratio are fewer than a bound if the ratio is below it. -/
theorem div_inUnits_lt_iff {num den : ℕ} (hden : 0 < den) {exponent : ℤ} {bound : ℕ} :
    (inUnits num den exponent).1 / (inUnits num den exponent).2 < bound ↔
      (num : ℚ) / den < bound * 2 ^ exponent := by
  obtain ⟨hd, hratio⟩ := inUnits_ratio num hden exponent
  rw [Nat.div_lt_iff_lt_mul hd, ← div_lt_iff₀ (two_zpow_pos exponent), ← hratio,
    div_lt_iff₀ (by exact_mod_cast hd)]
  exact_mod_cast Iff.rfl

/-- With a unit that is guessed from the lengths of its terms a ratio has at most 54 bits, and no fewer
than 53 above the least unit. -/
theorem ratio_bounds_of_log2 {num den : ℕ} (hnum : 0 < num) (hden : 0 < den) {coarse : ℤ}
    (hcoarse : max (-1074) ((num.log2 : ℤ) - den.log2 - 53) = coarse) :
    (num : ℚ) / den < 2 ^ 54 * 2 ^ coarse ∧
      (coarse = -1074 ∨ 2 ^ 52 * 2 ^ coarse ≤ (num : ℚ) / den) := by
  obtain ⟨hlow, hhigh⟩ := ratio_log2_bounds hnum hden
  constructor
  · refine hhigh.trans_le ?_
    rw [← zpow_natCast, ← zpow_add₀ (by norm_num)]
    exact zpow_le_zpow_right₀ (by norm_num) (by push_cast; omega)
  · rcases le_or_gt ((num.log2 : ℤ) - den.log2 - 53) (-1074) with hle | hgt
    · exact .inl (by omega)
    · right
      refine le_trans (le_of_eq ?_) hlow.le
      rw [← zpow_natCast, ← zpow_add₀ (by norm_num)]
      congr 1
      push_cast
      omega

/-- A value is rounded in units of a power of two such that it has 53 bits. -/
theorem exists_isRounding (negative : Bool) {num den : ℕ} (hnum : 0 < num) (hden : 0 < den) :
    ∃ exponent significand, IsRounding (num / den) exponent significand ∧
      nearest? negative num den = ofRounding? negative exponent significand := by
  generalize hcoarse : max (-1074) ((num.log2 : ℤ) - den.log2 - 53) = coarse
  obtain ⟨hbits, hnormal⟩ := ratio_bounds_of_log2 hnum hden hcoarse
  refine ⟨if (inUnits num den coarse).1 / (inUnits num den coarse).2 < 2 ^ 53 then coarse
    else coarse + 1, _, isRounding_of_inUnits hden ?_ ?_ ?_, ?_⟩
  · split <;> omega
  · split
    case isTrue hfit => exact_mod_cast (div_inUnits_lt_iff hden).mp hfit
    case isFalse =>
      rw [two_zpow_succ]
      linarith
  · split
    case isTrue => exact hnormal
    case isFalse hfit =>
      right
      have hwide : ((2 ^ 53 : ℕ) : ℚ) * 2 ^ coarse ≤ num / den :=
        not_lt.mp fun hlt => hfit ((div_inUnits_lt_iff hden).mpr hlt)
      rw [two_zpow_succ]
      push_cast at hwide
      linarith
  · rw [nearest?, if_neg hnum.ne']
    dsimp only
    rw [hcoarse]
    exact (ofRounding?_eq negative _ _).symm

section Rounding

variable {value : ℚ} {exponent : ℤ} {significand : ℕ}

/-- A significand has 53 bits, or is the next one. -/
theorem IsRounding.significand_le (h : IsRounding value exponent significand) :
    significand ≤ 2 ^ 53 := by
  apply h.le_of_le
  push_cast
  exact h.lt.le

/-- From `1` on, the unit of a value is small beside it. -/
theorem IsRounding.unit_le (h : IsRounding value exponent significand) (hvalue : 1 ≤ value) :
    2 ^ 52 * 2 ^ exponent ≤ value := by
  refine h.normal.resolve_left ?_
  rintro rfl
  have hsmall : (2 : ℚ) ^ (-1074 : ℤ) ≤ 2 ^ (-53 : ℤ) :=
    zpow_le_zpow_right₀ (by norm_num) (by norm_num)
  have hinverse : (2 : ℚ) ^ 53 * 2 ^ (-53 : ℤ) = 1 := by norm_num
  have hlt := h.lt
  linarith

/-- Up to the largest double, the unit of a value is that of a double. -/
theorem IsRounding.exponent_le (h : IsRounding value exponent significand)
    (hvalue : value ≤ largest) : exponent ≤ 971 := by
  by_contra hgt
  have hunit : (2 : ℚ) ^ (972 : ℤ) ≤ 2 ^ exponent := zpow_le_zpow_right₀ (by norm_num) (by omega)
  have hnormal := h.normal.resolve_left (by omega)
  have htwice : (2 : ℚ) ^ (972 : ℤ) = 2 * 2 ^ (971 : ℤ) := two_zpow_succ 971
  have hpow := two_zpow_pos 971
  rw [largest] at hvalue
  rw [htwice] at hunit
  clear htwice
  generalize (2 : ℚ) ^ (971 : ℤ) = unit at *
  linarith

/-- The double of a rounded significand has its value. -/
theorem IsRounding.inRange (h : IsRounding value exponent significand) {negative : Bool}
    {x : Binary64} (hx : ofRounding? negative exponent significand = some x) :
    x.InRange ∧ x.magnitude = significand * 2 ^ exponent := by
  have hle := h.significand_le
  rw [ofRounding?] at hx
  split at hx
  case isTrue hcarry =>
    split at hx
    case isTrue => simp at hx
    case isFalse =>
      obtain rfl := Option.some.inj hx
      refine ⟨⟨by norm_num, by dsimp only; omega⟩, ?_⟩
      rw [magnitude, two_zpow_succ, hcarry]
      push_cast
      ring
  case isFalse hne =>
    split at hx
    case isTrue => simp at hx
    case isFalse =>
      obtain rfl := Option.some.inj hx
      exact ⟨⟨lt_of_le_of_ne hle hne, by dsimp only; omega⟩, rfl⟩

/-- Up to the largest double, a value is rounded to a double. -/
theorem IsRounding.isSome (h : IsRounding value exponent significand) (hvalue : value ≤ largest)
    (negative : Bool) : (ofRounding? negative exponent significand).isSome = true := by
  have hexponent := h.exponent_le hvalue
  rw [ofRounding?]
  split
  case isTrue hcarry =>
    -- a carry in the greatest unit would lead beyond the largest double
    have hne : exponent ≠ 971 := by
      rintro rfl
      have hle : significand ≤ 2 ^ 53 - 1 := by
        have hcast : ((2 ^ 53 - 1 : ℕ) : ℚ) = 2 ^ 53 - 1 := by norm_num
        apply h.le_of_le
        rw [hcast]
        exact hvalue
      omega
    rw [if_neg (by omega)]
    rfl
  case isFalse =>
    rw [if_neg (by omega)]
    rfl

end Rounding

/-! ## Doubles next to ratios -/

section Nearest

variable {negative : Bool} {num den : ℕ} {x : Binary64}

/-- A rounded ratio has the bounds of a double. -/
theorem inRange_of_nearest? (hden : 0 < den) (h : nearest? negative num den = some x) :
    x.InRange := by
  rcases num.eq_zero_or_pos with rfl | hnum
  · obtain rfl := Option.some.inj h
    exact ⟨by norm_num, by norm_num⟩
  · obtain ⟨exponent, significand, hrounding, heq⟩ := exists_isRounding negative hnum hden
    exact (hrounding.inRange (heq ▸ h)).1

/-- Up to the largest double, a ratio is rounded to a double. -/
theorem isSome_nearest? (negative : Bool) (hden : 0 < den) (h : (num : ℚ) / den ≤ largest) :
    (nearest? negative num den).isSome = true := by
  rcases num.eq_zero_or_pos with rfl | hnum
  · rfl
  · obtain ⟨exponent, significand, hrounding, heq⟩ := exists_isRounding negative hnum hden
    rw [heq]
    exact hrounding.isSome h negative

theorem pos_of_one_le (hone : 1 ≤ (num : ℚ) / den) : 0 < num := by
  rcases num.eq_zero_or_pos with rfl | hnum
  · norm_num at hone
  · exact hnum

/-- Rounding raises a value from `1` on by one part in `2 ^ 53` at most. -/
theorem magnitude_le_of_one_le (hden : 0 < den) (hone : 1 ≤ (num : ℚ) / den)
    (h : nearest? negative num den = some x) : x.magnitude ≤ num / den * (1 + 1 / 2 ^ 53) := by
  obtain ⟨exponent, significand, hrounding, heq⟩ :=
    exists_isRounding negative (pos_of_one_le hone) hden
  have hunit := hrounding.unit_le hone
  have hnear := hrounding.near
  rw [(hrounding.inRange (heq ▸ h)).2]
  linarith

/-- Rounding leaves more than a half of a value from `1` on. -/
theorem half_lt_magnitude (hden : 0 < den) (hone : 1 ≤ (num : ℚ) / den)
    (h : nearest? negative num den = some x) : num / den / 2 < x.magnitude := by
  obtain ⟨exponent, significand, hrounding, heq⟩ :=
    exists_isRounding negative (pos_of_one_le hone) hden
  have hbits : 2 ^ 52 ≤ significand :=
    hrounding.ge_of_ge _ (by push_cast; exact hrounding.unit_le hone)
  have hbits' : (2 : ℚ) ^ 52 ≤ significand := by exact_mod_cast hbits
  have hlt := hrounding.lt
  rw [(hrounding.inRange (heq ▸ h)).2]
  calc (num : ℚ) / den / 2 < 2 ^ 52 * 2 ^ exponent := by linarith
    _ ≤ significand * 2 ^ exponent := by
      have := two_zpow_pos exponent
      gcongr

theorem significand_pos (h : 0 < x.magnitude) : 0 < x.significand := by
  rw [magnitude] at h
  exact_mod_cast (pos_iff_pos_of_mul_pos h).mpr (two_zpow_pos x.exponent)

/-- Rounding never more than doubles a value, but for the least doubles. -/
theorem magnitude_le_double (hden : 0 < den) (h : nearest? negative num den = some x) :
    x.magnitude ≤ 2 * (num / den) + 1 := by
  rcases num.eq_zero_or_pos with rfl | hnum
  · obtain rfl := Option.some.inj h
    norm_num [magnitude]
  · obtain ⟨exponent, significand, hrounding, heq⟩ := exists_isRounding negative hnum hden
    have hnear := hrounding.near
    have hvalue : 0 ≤ (num : ℚ) / den := by positivity
    rw [(hrounding.inRange (heq ▸ h)).2]
    rcases hrounding.normal with rfl | hnormal
    · have hsmall : (2 : ℚ) ^ (-1074 : ℤ) ≤ 2 ^ (0 : ℤ) :=
        zpow_le_zpow_right₀ (by norm_num) (by norm_num)
      rw [zpow_zero] at hsmall
      linarith
    · have := two_zpow_pos exponent
      linarith

end Nearest

end Binary64

end CodeSearch.Decimal
