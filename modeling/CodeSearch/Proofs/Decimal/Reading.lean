import CodeSearch.Proofs.Decimal.Rounding

/-!
# Decimals as doubles

`Binary64.ofDecimal?` rounds a significand, rounds a power of ten and rounds their product or
quotient.  What it gives has the bounds of a double (`inRange_of_ofDecimal?`), and a decimal that
stays three units in the last place below the largest double is never refused, whichever way the
three roundings go (`isSome_ofDecimal?`).
-/

namespace CodeSearch.Decimal.Binary64

/-! ## Products and quotients -/

theorem exists_mul?_eq (x y : Binary64) :
    ∃ num den : ℕ, 0 < den ∧ (num : ℚ) / den = x.magnitude * y.magnitude ∧
      x.mul? y = nearest? (x.negative != y.negative) num den := by
  obtain ⟨hden, hratio⟩ :=
    inUnits_ratio (x.significand * y.significand) Nat.one_pos (-(x.exponent + y.exponent))
  refine ⟨(inUnits (x.significand * y.significand) 1 (-(x.exponent + y.exponent))).1,
    (inUnits (x.significand * y.significand) 1 (-(x.exponent + y.exponent))).2, hden, ?_, rfl⟩
  rw [hratio, magnitude, magnitude, zpow_neg, zpow_add₀ (by norm_num)]
  push_cast
  field_simp

theorem exists_div?_eq (x : Binary64) {y : Binary64} (hy : 0 < y.significand) :
    ∃ num den : ℕ, 0 < den ∧ (num : ℚ) / den = x.magnitude / y.magnitude ∧
      x.div? y = nearest? (x.negative != y.negative) num den := by
  obtain ⟨hden, hratio⟩ := inUnits_ratio x.significand hy (y.exponent - x.exponent)
  have hcast : (y.significand : ℚ) ≠ 0 := by exact_mod_cast hy.ne'
  have hpow := (two_zpow_pos x.exponent).ne'
  refine ⟨(inUnits x.significand y.significand (y.exponent - x.exponent)).1,
    (inUnits x.significand y.significand (y.exponent - x.exponent)).2, hden, ?_, rfl⟩
  rw [hratio, magnitude, magnitude, zpow_sub₀ (by norm_num)]
  field_simp

theorem magnitude_nonneg (x : Binary64) : 0 ≤ x.magnitude := by
  have := two_zpow_pos x.exponent
  rw [magnitude]
  positivity

/-! ## Powers of ten -/

theorem cast_ten_pow_le {n bits unit : ℕ}
    (h : Nat.pow 10 n ≤ (Nat.pow 2 bits - 1) * Nat.pow 2 unit) :
    (10 : ℚ) ^ n ≤ (2 ^ bits - 1) * 2 ^ (unit : ℤ) := by
  have hcast : (10 ^ n : ℕ) ≤ ((2 ^ bits - 1) * 2 ^ unit : ℕ) := h
  have hone : 1 ≤ 2 ^ bits := Nat.one_le_two_pow
  rw [zpow_natCast]
  exact_mod_cast hcast

theorem ten_pow_le_largest {n : ℕ} (hn : n ≤ 308) : (10 : ℚ) ^ n ≤ largest :=
  (pow_le_pow_right₀ (by norm_num) hn).trans (@cast_ten_pow_le 308 53 971 (by decide +kernel))

theorem largest_lt_ten_pow {n : ℕ} (hn : 308 < n) : largest < 10 ^ n := by
  have hgroup : (2 : ℚ) ^ 93 ≤ 10 ^ 28 := by norm_num
  have hpos := two_zpow_pos 971
  calc largest < 2 ^ 53 * 2 ^ (971 : ℤ) := by
        rw [largest]
        gcongr
        norm_num
    _ = 2 * (2 ^ 93) ^ 11 := by
        rw [← pow_mul, ← zpow_natCast, ← zpow_natCast, ← zpow_add₀ (by norm_num),
          ← zpow_one_add₀ (by norm_num)]
        rfl
    _ ≤ 10 * (10 ^ 28) ^ 11 := by gcongr; norm_num
    _ = 10 ^ 309 := by rw [← pow_mul, ← pow_succ']
    _ ≤ 10 ^ n := pow_le_pow_right₀ (by norm_num) hn

/-- The powers of ten up to `10 ^ 308` are rounded to doubles. -/
theorem exists_powerOfTen?_eq {n : ℕ} (hn : n ≤ 308) :
    ∃ x, powerOfTen? n = some x ∧ 0 < x.significand ∧ 1 / 2 ≤ x.magnitude ∧
      x.magnitude ≤ 10 ^ n * (1 + 1 / 2 ^ 53) := by
  have hratio : ((Nat.pow 10 n : ℕ) : ℚ) / (1 : ℕ) = 10 ^ n := by
    rw [Nat.cast_one, div_one]
    exact Nat.cast_pow 10 n
  have hone : 1 ≤ ((Nat.pow 10 n : ℕ) : ℚ) / (1 : ℕ) := by
    rw [hratio]
    exact one_le_pow₀ (by norm_num)
  obtain ⟨x, hx⟩ := Option.isSome_iff_exists.mp
    (isSome_nearest? false Nat.one_pos (by rw [hratio]; exact ten_pow_le_largest hn))
  have hhalf := half_lt_magnitude Nat.one_pos hone hx
  have hhigh := magnitude_le_of_one_le Nat.one_pos hone hx
  rw [hratio] at hhalf hhigh hone
  exact ⟨x, hx, significand_pos (by linarith), by linarith, hhigh⟩

/-! ## Bounds -/

theorem inRange_of_mul? {x y z : Binary64} (h : x.mul? y = some z) : z.InRange := by
  obtain ⟨num, den, hden, -, heq⟩ := exists_mul?_eq x y
  exact inRange_of_nearest? hden (heq ▸ h)

theorem inRange_of_div? {x y z : Binary64} (hy : 0 < y.significand) (h : x.div? y = some z) :
    z.InRange := by
  obtain ⟨num, den, hden, -, heq⟩ := exists_div?_eq x hy
  exact inRange_of_nearest? hden (heq ▸ h)

theorem inRange_of_scaleDown? {x z : Binary64} (hx : x.InRange) {exponent rounds : ℕ}
    (h : scaleDown? x exponent rounds = some z) : z.InRange := by
  induction rounds generalizing x exponent with
  | zero =>
    obtain rfl := Option.some.inj h
    exact ⟨by norm_num, by norm_num⟩
  | succ rounds ih =>
    rw [scaleDown?] at h
    split at h
    case isTrue hexponent =>
      obtain ⟨y, hy, hpos, -, -⟩ := exists_powerOfTen?_eq hexponent
      rw [hy] at h
      exact inRange_of_div? hpos h
    case isFalse =>
      split at h
      case isTrue =>
        obtain rfl := Option.some.inj h
        exact hx
      case isFalse =>
        obtain ⟨y, hy, hpos, -, -⟩ := exists_powerOfTen?_eq le_rfl
        rw [hy] at h
        obtain ⟨quotient, hquotient, hrest⟩ := Option.bind_eq_some_iff.mp h
        exact ih (inRange_of_div? hpos hquotient) hrest

/-- What a decimal is rounded to has the bounds of a double. -/
theorem inRange_of_ofDecimal? {negative : Bool} {significand : ℕ} {exponent : ℤ} {z : Binary64}
    (h : ofDecimal? negative significand exponent = some z) : z.InRange := by
  obtain ⟨x, hx, hscaled⟩ := Option.bind_eq_some_iff.mp h
  have hrange := inRange_of_nearest? Nat.one_pos hx
  split at hscaled
  case isTrue => exact inRange_of_scaleDown? hrange hscaled
  case isFalse =>
    split at hscaled
    case isTrue =>
      obtain ⟨y, -, hproduct⟩ := Option.bind_eq_some_iff.mp hscaled
      exact inRange_of_mul? hproduct
    case isFalse =>
      split at hscaled
      case isTrue =>
        obtain rfl := Option.some.inj hscaled
        exact hrange
      case isFalse => simp at hscaled

/-! ## Decimals that are not refused -/

theorem isSome_mul? {x y : Binary64} (h : x.magnitude * y.magnitude ≤ largest) :
    (x.mul? y).isSome = true := by
  obtain ⟨num, den, hden, hratio, heq⟩ := exists_mul?_eq x y
  rw [heq]
  exact isSome_nearest? _ hden (hratio ▸ h)

/-- Division by a power of ten leads from small values to small values. -/
theorem exists_div?_powerOfTen {x y : Binary64} (hy : 0 < y.significand)
    (hhalf : 1 / 2 ≤ y.magnitude) (hx : x.magnitude ≤ 2 ^ 100) :
    ∃ z, x.div? y = some z ∧ z.magnitude ≤ 4 * x.magnitude + 1 := by
  obtain ⟨num, den, hden, hratio, heq⟩ := exists_div?_eq x hy
  have hquotient : x.magnitude / y.magnitude ≤ 2 * x.magnitude := by
    rw [div_le_iff₀ (by linarith)]
    have := x.magnitude_nonneg
    nlinarith
  have hlargest : (2 : ℚ) ^ 101 ≤ largest := by
    have hpow : (2 : ℚ) ^ (101 : ℤ) ≤ 2 ^ (971 : ℤ) :=
      zpow_le_zpow_right₀ (by norm_num) (by norm_num)
    have hpos := two_zpow_pos 971
    have hone : (1 : ℚ) ≤ 2 ^ 53 - 1 := by norm_num
    rw [largest]
    calc (2 : ℚ) ^ 101 = 2 ^ (101 : ℤ) := by norm_cast
      _ ≤ 2 ^ (971 : ℤ) := hpow
      _ ≤ (2 ^ 53 - 1) * 2 ^ (971 : ℤ) := le_mul_of_one_le_left hpos.le hone
  obtain ⟨z, hz⟩ := Option.isSome_iff_exists.mp
    (isSome_nearest? (x.negative != y.negative) hden
      (show (num : ℚ) / den ≤ largest by rw [hratio]; linarith))
  have hdouble := magnitude_le_double hden hz
  rw [hratio] at hdouble
  exact ⟨z, heq ▸ hz, by linarith⟩

theorem isSome_scaleDown? {x : Binary64} {exponent rounds : ℕ}
    (hx : (x.magnitude + 1) * 8 ^ rounds ≤ 2 ^ 100) : (scaleDown? x exponent rounds).isSome = true := by
  induction rounds generalizing x exponent with
  | zero => rfl
  | succ rounds ih =>
    have hnonneg := x.magnitude_nonneg
    have hone : (1 : ℚ) ≤ 8 ^ rounds := one_le_pow₀ (by norm_num)
    have hsmall : x.magnitude ≤ 2 ^ 100 := by
      rw [pow_succ] at hx
      nlinarith
    rw [scaleDown?]
    split
    case isTrue hexponent =>
      obtain ⟨y, hy, hpos, hhalf, -⟩ := exists_powerOfTen?_eq hexponent
      obtain ⟨z, hz, -⟩ := exists_div?_powerOfTen hpos hhalf hsmall
      rw [hy, Option.bind_some, hz]
      rfl
    case isFalse =>
      split
      case isTrue => rfl
      case isFalse =>
        obtain ⟨y, hy, hpos, hhalf, -⟩ := exists_powerOfTen?_eq le_rfl
        obtain ⟨z, hz, hle⟩ := exists_div?_powerOfTen hpos hhalf hsmall
        rw [hy, Option.bind_some, hz, Option.bind_some]
        apply ih
        calc (z.magnitude + 1) * 8 ^ rounds ≤ (8 * (x.magnitude + 1)) * 8 ^ rounds := by
              gcongr
              linarith
          _ = (x.magnitude + 1) * 8 ^ (rounds + 1) := by ring
          _ ≤ 2 ^ 100 := hx

/-- A value three units in the last place below the largest double, less a half. -/
def safe : ℚ := (2 ^ 53 - 7 / 2) * 2 ^ (971 : ℤ)

/-- Two roundings raise a safe value no further than to the largest double. -/
theorem safe_le_largest : safe * ((1 + 1 / 2 ^ 53) * (1 + 1 / 2 ^ 53)) ≤ largest := by
  have hpow := two_zpow_pos 971
  have hfactor : ((2 : ℚ) ^ 53 - 7 / 2) * ((1 + 1 / 2 ^ 53) * (1 + 1 / 2 ^ 53)) ≤ 2 ^ 53 - 1 := by
    norm_num
  calc safe * ((1 + 1 / 2 ^ 53) * (1 + 1 / 2 ^ 53))
      = ((2 ^ 53 - 7 / 2) * ((1 + 1 / 2 ^ 53) * (1 + 1 / 2 ^ 53))) * 2 ^ (971 : ℤ) := by
        rw [safe]
        ring
    _ ≤ (2 ^ 53 - 1) * 2 ^ (971 : ℤ) := by gcongr

theorem safe_lt_largest : safe < largest := by
  have hpow := two_zpow_pos 971
  rw [safe, largest]
  gcongr
  norm_num

theorem exists_nearest?_ofNat (negative : Bool) {significand : ℕ} (h : significand < 2 ^ 64) :
    ∃ x, nearest? negative significand 1 = some x ∧
      x.magnitude ≤ significand * (1 + 1 / 2 ^ 53) := by
  rcases significand.eq_zero_or_pos with rfl | hpos
  · exact ⟨_, rfl, by norm_num [magnitude]⟩
  · have hratio : (significand : ℚ) / (1 : ℕ) = significand := by rw [Nat.cast_one, div_one]
    have hone : 1 ≤ (significand : ℚ) / (1 : ℕ) := by
      rw [hratio]
      exact_mod_cast hpos
    have hle : (significand : ℚ) ≤ 10 ^ 20 := by
      have : significand ≤ 10 ^ 20 := by omega
      exact_mod_cast this
    obtain ⟨x, hx⟩ := Option.isSome_iff_exists.mp (isSome_nearest? negative Nat.one_pos
      (by rw [hratio]; exact hle.trans (ten_pow_le_largest (by norm_num))))
    have hhigh := magnitude_le_of_one_le Nat.one_pos hone hx
    rw [hratio] at hhigh
    exact ⟨x, hx, hhigh⟩

/-- A safe decimal is rounded to a double. -/
theorem isSome_ofDecimal? (negative : Bool) {significand : ℕ} (hsignificand : significand < 2 ^ 64)
    {exponent : ℤ} (h : (significand : ℚ) * 10 ^ exponent ≤ safe) :
    (ofDecimal? negative significand exponent).isSome = true := by
  obtain ⟨x, hx, hle⟩ := exists_nearest?_ofNat negative hsignificand
  rw [ofDecimal?, hx, Option.bind_some]
  split
  case isTrue =>
    apply isSome_scaleDown?
    have hcast : (significand : ℚ) ≤ 2 ^ 64 := by exact_mod_cast hsignificand.le
    norm_num at hle ⊢
    linarith
  case isFalse hnonneg =>
    have hpow : (10 : ℚ) ^ exponent = 10 ^ exponent.toNat := by
      rw [← zpow_natCast, Int.toNat_of_nonneg (by omega)]
    rw [hpow] at h
    split
    case isTrue hexponent =>
      obtain ⟨y, hy, -, -, hyle⟩ := exists_powerOfTen?_eq (show exponent.toNat ≤ 308 by omega)
      rw [hy, Option.bind_some]
      apply isSome_mul?
      have hxnonneg := x.magnitude_nonneg
      have hynonneg := y.magnitude_nonneg
      calc x.magnitude * y.magnitude
          ≤ (significand * (1 + 1 / 2 ^ 53)) * (10 ^ exponent.toNat * (1 + 1 / 2 ^ 53)) := by
            gcongr
        _ = (significand * 10 ^ exponent.toNat) * ((1 + 1 / 2 ^ 53) * (1 + 1 / 2 ^ 53)) := by ring
        _ ≤ safe * ((1 + 1 / 2 ^ 53) * (1 + 1 / 2 ^ 53)) := by gcongr
        _ ≤ largest := safe_le_largest
    case isFalse hexponent =>
      rcases significand.eq_zero_or_pos with rfl | hpos
      · obtain rfl := Option.some.inj hx
        rfl
      · have hone : (1 : ℚ) ≤ significand := by exact_mod_cast hpos
        have hbeyond := largest_lt_ten_pow (show 308 < exponent.toNat by omega)
        have hge : (10 : ℚ) ^ exponent.toNat ≤ significand * 10 ^ exponent.toNat :=
          le_mul_of_one_le_left (by positivity) hone
        have hsafe := safe_lt_largest
        linarith

end CodeSearch.Decimal.Binary64
