/-!
# Finite binary floating point numbers in exact arithmetic

`Binary64` holds a finite double as sign, significand and power of two.  Rounding is done on ratios of
natural numbers (`nearest?`), so products and quotients are exact values rounded once.  `ofDecimal?`
turns a decimal significand and exponent into a double in two roundings: the significand first, then
its product or quotient with the rounded power of ten.
-/

namespace CodeSearch.Decimal

/-- The quotient `num / den` rounded to an integer; a half goes to the even neighbour. -/
def roundHalfEven (num den : Nat) : Nat :=
  let quotient := num / den
  let rest := num % den
  if 2 * rest < den then quotient
  else if 2 * rest > den then quotient + 1
  else quotient + quotient % 2

/-- A finite double: `significand * 2 ^ exponent`, negated if `negative`.  The significand has 53 bits
unless the exponent is the least one, `-1074`. -/
structure Binary64 where
  /-- The sign bit, which zero has too. -/
  negative : Bool
  /-- The digits, below `2 ^ 53`. -/
  significand : Nat
  /-- The power of two that the significand counts. -/
  exponent : Int
  deriving DecidableEq, Repr

namespace Binary64

/-- `num / den` in units of `2 ^ exponent`, as a ratio. -/
def inUnits (num den : Nat) (exponent : Int) : Nat × Nat :=
  if 0 ≤ exponent then (num, den * Nat.pow 2 exponent.toNat)
  else (num * Nat.pow 2 (-exponent).toNat, den)

/-- The double nearest to `num / den`; `none` beyond the largest double. -/
def nearest? (negative : Bool) (num den : Nat) : Option Binary64 :=
  if num = 0 then some ⟨negative, 0, -1074⟩
  else
    let coarse : Int := max (-1074) ((Nat.log2 num : Int) - Nat.log2 den - 53)
    let (n, d) := inUnits num den coarse
    let exponent := if n / d < Nat.pow 2 53 then coarse else coarse + 1
    let (n, d) := inUnits num den exponent
    let significand := roundHalfEven n d
    let (significand, exponent) :=
      if significand = Nat.pow 2 53 then (Nat.pow 2 52, exponent + 1) else (significand, exponent)
    if 971 < exponent then none else some ⟨negative, significand, exponent⟩

/-- The double nearest to `x * y`. -/
def mul? (x y : Binary64) : Option Binary64 :=
  let (n, d) := inUnits (x.significand * y.significand) 1 (-(x.exponent + y.exponent))
  nearest? (x.negative != y.negative) n d

/-- The double nearest to `x / y`, for `y` other than zero. -/
def div? (x y : Binary64) : Option Binary64 :=
  let (n, d) := inUnits x.significand y.significand (y.exponent - x.exponent)
  nearest? (x.negative != y.negative) n d

/-- The double nearest to the power `10 ^ n`. -/
def powerOfTen? (n : Nat) : Option Binary64 := nearest? false (Nat.pow 10 n) 1

/-- `x` divided by `10 ^ 308` until the remaining exponent is a power of ten that a double can hold;
`rounds` bounds the divisions, and three of them bring any integer below `2 ^ 64` to zero. -/
def scaleDown? (x : Binary64) (exponent : Nat) : (rounds : Nat) → Option Binary64
  | 0 => some { x with significand := 0, exponent := -1074 }
  | rounds + 1 =>
    if exponent ≤ 308 then (powerOfTen? exponent).bind x.div?
    else if x.significand = 0 then some x
    else ((powerOfTen? 308).bind x.div?).bind fun y => scaleDown? y (exponent - 308) rounds

/-- The double for `significand * 10 ^ exponent`; `none` when it is too large. -/
def ofDecimal? (negative : Bool) (significand : Nat) (exponent : Int) : Option Binary64 :=
  (nearest? negative significand 1).bind fun x =>
    if exponent < 0 then scaleDown? x (-exponent).toNat 4
    else if exponent ≤ 308 then (powerOfTen? exponent.toNat).bind x.mul?
    else if significand = 0 then some x
    else none

end Binary64

end CodeSearch.Decimal
