import CodeSearch.Decimal.Binary64

/-!
# The shortest decimal text of a double

`shortest` finds the decimal with the fewest digits that rounds back to a double, and of those the
one nearest to it.  The doubles that a decimal rounds to form an interval around the exact value; for
each number of digits only the two neighbours of the value on that decimal grid have to be tried.

`Style` holds the decisions of a written format, and `Style.json` those of JSON text: positional
between `1e-5` and `1e16`, with a sign on every exponent and at least one digit after the point.
-/

namespace CodeSearch.Decimal

/-- `num / den` in units of `10 ^ exponent`, as a ratio. -/
def inTens (num den : Nat) (exponent : Int) : Nat × Nat :=
  if 0 ≤ exponent then (num, den * Nat.pow 10 exponent.toNat)
  else (num * Nat.pow 10 (-exponent).toNat, den)

/-- The interval of values that round to a positive double, in quarters of its last place: its ends,
and whether the ends belong to it. -/
def roundingInterval (x : Binary64) : Nat × Nat × Bool :=
  let quarters := 4 * x.significand
  let gapBelow := if x.significand = Nat.pow 2 52 ∧ -1074 < x.exponent then 1 else 2
  (quarters - gapBelow, quarters + 2, x.significand % 2 == 0)

/-- Whether `digits * 10 ^ tens` rounds to a positive double. -/
def roundsTo (x : Binary64) (digits : Nat) (tens : Int) : Bool :=
  let (low, high, closed) := roundingInterval x
  let (n, d) := inTens digits 1 (-tens)
  let (n, d) := Binary64.inUnits n d (x.exponent - 2)
  if closed then low * d ≤ n && n ≤ high * d else low * d < n && n < high * d

/-- The power of ten at or below `num / den`, which is not zero. -/
def decimalExponent (num den : Nat) : Int :=
  let estimate := (((Nat.log2 num : Int) - Nat.log2 den - 1) * 30103).fdiv 100000
  let fits (k : Int) : Bool := let (n, d) := inTens num den k; d ≤ n
  if fits (estimate + 2) then estimate + 2
  else if fits (estimate + 1) then estimate + 1
  else if fits estimate then estimate
  else estimate - 1

/-- The multiple of `10 ^ tens` that rounds to `x`, which is `num / den`: of the two next to `x` the
nearer one. -/
def decimalAt? (x : Binary64) (num den : Nat) (tens : Int) : Option (Nat × Int) :=
  let (n, d) := inTens num den tens
  let below := n / d
  match roundsTo x below tens, roundsTo x (below + 1) tens with
  | true, true => some (roundHalfEven n d, tens)
  | true, false => some (below, tens)
  | false, true => some (below + 1, tens)
  | false, false => none

/-- The digits and the power of ten of the shortest decimal that rounds to `x`. -/
def shortest (x : Binary64) : Nat × Int :=
  let (num, den) := Binary64.inUnits x.significand 1 (-x.exponent)
  let top := decimalExponent num den
  ((List.range 17).findSome? fun count : Nat => decimalAt? x num den (top - (count : Int))).getD
    (x.significand, 0)

/-- How a format writes a decimal. -/
structure Style where
  /-- The least power of ten of the first digit that is still written positionally. -/
  leastPositional : Int
  /-- The greatest power of ten of the first digit that is still written positionally. -/
  greatestPositional : Int
  /-- Whether a positive exponent is written with a sign. -/
  plusSign : Bool

/-- JSON numbers are positional from `1e-5` to below `1e16`, and their exponents carry a sign. -/
def Style.json : Style := ⟨-5, 15, true⟩

/-- The text of digits, the first one counting `10 ^ first`, in a given style. -/
def Style.layout (style : Style) (digits : List Char) (first : Int) : List Char :=
  let count : Int := digits.length
  if style.leastPositional ≤ first ∧ first ≤ style.greatestPositional then
    if first < 0 then "0.".toList ++ List.replicate (-first - 1).toNat '0' ++ digits
    else if count ≤ first + 1 then
      digits ++ List.replicate (first + 1 - count).toNat '0' ++ ".0".toList
    else digits.take (first + 1).toNat ++ '.' :: digits.drop (first + 1).toNat
  else
    let mantissa := match digits with
      | [] => []
      | [d] => [d]
      | d :: rest => d :: '.' :: rest
    let exponentSign := if first < 0 then "-" else if style.plusSign then "+" else ""
    mantissa ++ 'e' :: exponentSign.toList ++ (toString first.natAbs).toList

/-- The text of a double in a given style. -/
def Style.write (style : Style) (x : Binary64) : String :=
  let sign := if x.negative then "-" else ""
  if x.significand = 0 then sign ++ "0.0"
  else
    let (digits, tens) := shortest x
    let written := (toString digits).toList
    let first : Int := tens + written.length - 1
    sign ++ String.ofList (style.layout (written.reverse.dropWhile (· == '0')).reverse first)

end CodeSearch.Decimal
