import Mathlib.Algebra.Order.Ring.Nat
import Mathlib.Data.List.TakeWhile
import Mathlib.Tactic.IntervalCases
import Mathlib.Tactic.Positivity
import Mathlib.Tactic.Ring

/-!
# Decimal digits

What the digits of a natural number look like, and what zeros before and behind digits do to their
number.
-/

namespace CodeSearch.Decimal

/-- Every digit that follows counts a number tenfold. -/
theorem pow_mul_le_ofDigitChars (digits : List Char) (n : ℕ) :
    10 ^ digits.length * n ≤ Nat.ofDigitChars 10 digits n := by
  rw [Nat.ofDigitChars_eq_ofDigitChars_zero]
  exact Nat.le_add_right _ _

theorem le_ofDigitChars (digits : List Char) (n : ℕ) : n ≤ Nat.ofDigitChars 10 digits n :=
  (Nat.le_mul_of_pos_left n (by positivity)).trans (pow_mul_le_ofDigitChars digits n)

/-- A number of so many digits is below a power of ten. -/
theorem ofDigitChars_lt {digits : List Char} (h : ∀ c ∈ digits, c.isDigit = true) :
    Nat.ofDigitChars 10 digits 0 < 10 ^ digits.length := by
  induction digits with
  | nil => simp
  | cons c digits ih =>
    have hrest := ih fun c hc => h c (List.mem_cons_of_mem _ hc)
    have hdigit : c.toNat - '0'.toNat ≤ 9 := by
      have hc : c.isDigit = true := h c List.mem_cons_self
      rw [Char.isDigit, Bool.and_eq_true, decide_eq_true_eq, decide_eq_true_eq] at hc
      have : c.toNat ≤ '9'.toNat := hc.2
      have hnine : '9'.toNat = 57 := rfl
      have hzero : '0'.toNat = 48 := rfl
      omega
    rw [Nat.ofDigitChars_cons, Nat.ofDigitChars_eq_ofDigitChars_zero, Nat.mul_zero, Nat.zero_add,
      List.length_cons]
    calc 10 ^ digits.length * (c.toNat - '0'.toNat) + Nat.ofDigitChars 10 digits 0
        < 10 ^ digits.length * 9 + 10 ^ digits.length :=
          Nat.add_lt_add_of_le_of_lt (Nat.mul_le_mul_left _ hdigit) hrest
      _ = 10 ^ (digits.length + 1) := by ring

/-- A number starts with a digit. -/
theorem exists_toDigits_eq_cons (n : ℕ) :
    ∃ c digits, Nat.toDigits 10 n = c :: digits ∧ c.isDigit = true := by
  obtain ⟨c, digits, heq⟩ := List.exists_cons_of_ne_nil (Nat.toDigits_ne_nil (n := n) (b := 10))
  refine ⟨c, digits, heq, ?_⟩
  have hmem : c ∈ Nat.toDigits 10 n := by
    rw [heq]
    exact List.mem_cons_self
  exact Nat.isDigit_of_mem_toDigits (by decide) (by decide) hmem

/-- Only zero is written with a zero in front. -/
theorem head?_toDigits {n : ℕ} (hn : 0 < n) : (Nat.toDigits 10 n).head? ≠ some '0' := by
  induction n using Nat.strongRecOn with
  | ind n ih =>
    rw [Nat.toDigits_eq_if (by decide)]
    split
    case isTrue hlt =>
      interval_cases n <;> decide
    case isFalse hle =>
      have hhead : (Nat.toDigits 10 (n / 10)).head? ≠ some '0' := ih (n / 10) (by omega) (by omega)
      obtain ⟨c, digits, heq, -⟩ := exists_toDigits_eq_cons (n / 10)
      rw [heq] at hhead ⊢
      exact hhead

theorem ofDigitChars_append_zeros (digits : List Char) (count : ℕ) :
    Nat.ofDigitChars 10 (digits ++ List.replicate count '0') 0 =
      Nat.ofDigitChars 10 digits 0 * 10 ^ count := by
  rw [Nat.ofDigitChars_append, Nat.ofDigitChars_replicate_zero, Nat.mul_comm]

theorem ofDigitChars_zeros_append (count : ℕ) (digits : List Char) :
    Nat.ofDigitChars 10 (List.replicate count '0' ++ digits) 0 = Nat.ofDigitChars 10 digits 0 := by
  rw [Nat.ofDigitChars_append, Nat.ofDigitChars_replicate_zero, Nat.mul_zero]

/-- Digits without the zeros at their end. -/
def trimZeros (digits : List Char) : List Char := (digits.reverse.dropWhile (· == '0')).reverse

theorem exists_eq_trimZeros_append (digits : List Char) :
    ∃ count, digits = trimZeros digits ++ List.replicate count '0' := by
  refine ⟨(digits.reverse.takeWhile (· == '0')).length, ?_⟩
  have hzeros : digits.reverse.takeWhile (· == '0') =
      List.replicate (digits.reverse.takeWhile (· == '0')).length '0' :=
    List.eq_replicate_of_mem fun c hc => by simpa using List.mem_takeWhile_imp hc
  rw [← List.reverse_replicate, ← hzeros, trimZeros, ← List.reverse_append,
    List.takeWhile_append_dropWhile, List.reverse_reverse]

/-- The digits of a positive number start with a digit other than zero, which stays when zeros are
trimmed. -/
theorem exists_trimZeros_toDigits {n : ℕ} (hn : 0 < n) :
    ∃ d rest, trimZeros (Nat.toDigits 10 n) = d :: rest ∧ d ≠ '0' ∧
      ∀ c ∈ d :: rest, c.isDigit = true := by
  obtain ⟨count, heq⟩ := exists_eq_trimZeros_append (Nat.toDigits 10 n)
  have hhead := head?_toDigits hn
  have hdigits : ∀ c ∈ trimZeros (Nat.toDigits 10 n), c.isDigit = true := by
    intro c hc
    apply Nat.isDigit_of_mem_toDigits (b := 10) (n := n) (by decide) (by decide)
    rw [heq]
    exact List.mem_append_left _ hc
  cases htrim : trimZeros (Nat.toDigits 10 n) with
  | nil =>
    rw [htrim, List.nil_append] at heq
    cases count with
    | zero => exact absurd heq Nat.toDigits_ne_nil
    | succ count =>
      rw [heq] at hhead
      exact absurd rfl hhead
  | cons d rest =>
    refine ⟨d, rest, rfl, ?_, htrim ▸ hdigits⟩
    rintro rfl
    rw [heq, htrim] at hhead
    exact hhead rfl

end CodeSearch.Decimal
