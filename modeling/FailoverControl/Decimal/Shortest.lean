import FailoverControl.Decimal.Binary64
import FailoverControl.Decimal.Digits

/-!
# The shortest decimal of a floating-point number

Of all decimals that read back as a given number, the ones with the fewest digits, and of those
the nearest. A number is shown positionally when its leading digit stands between `10 ^ (-5)` and
`10 ^ 15`, and always with a point or an exponent.
-/

set_option autoImplicit false

namespace FailoverControl.Decimal

/-- A decimal `coefficient · 10 ^ exponent`. -/
structure Scientific where
  coefficient : Nat
  exponent : Int
deriving DecidableEq, Repr

/-- The reals that round to a number, in units of `2 ^ (-1075)`; the ends belong to the interval
when the pattern is even. -/
structure RoundingInterval where
  lower : Nat
  value : Nat
  upper : Nat
  closed : Bool

/-- The interval of a positive magnitude pattern. -/
def RoundingInterval.ofMagnitude (magnitude : Nat) : RoundingInterval where
  lower := unitsOf (magnitude - 1) + unitsOf magnitude
  value := 2 * unitsOf magnitude
  upper := unitsOf magnitude + unitsOf (magnitude + 1)
  closed := magnitude % 2 = 0

/-- A multiple of a power of ten as a quotient, over the unit `2 ^ (-1075)`. -/
def gridPoint (coefficient : Nat) (exponent : Int) : Nat × Nat :=
  (coefficient * tenTo exponent.toNat * twoTo 1075, tenTo (-exponent).toNat)

/-- Whether a decimal lies in the interval. -/
def RoundingInterval.contains (interval : RoundingInterval) (coefficient : Nat)
    (exponent : Int) : Bool :=
  let (num, den) := gridPoint coefficient exponent
  if interval.closed then interval.lower * den ≤ num && num ≤ interval.upper * den
  else interval.lower * den < num && num < interval.upper * den

/-- The least `p` with the interval's value below `10 ^ p`. -/
def RoundingInterval.decimalMagnitude (interval : RoundingInterval) : Int :=
  ((digits (interval.value * tenTo 330 / twoTo 1075)).length : Int) - 330

/-- The decimal of a given grid that lies in the interval, the nearer one of two, and of two
equally near ones the even one. -/
def RoundingInterval.onGrid? (interval : RoundingInterval) (exponent : Int) : Option Nat :=
  let num := interval.value * tenTo (-exponent).toNat
  let den := twoTo 1075 * tenTo exponent.toNat
  let below := num / den
  match interval.contains below exponent, interval.contains (below + 1) exponent with
  | false, false => none
  | true, false => some below
  | false, true => some (below + 1)
  | true, true => some (roundQuotient num den)

/-- The first decimal found when the number of digits grows from `count` on. -/
def RoundingInterval.shortestFrom (interval : RoundingInterval) (top : Int) :
    Nat → Nat → Scientific
  | 0, count => ⟨interval.value * tenTo (count - top).toNat / twoTo 1075, top - count⟩
  | attempts + 1, count =>
    match interval.onGrid? (top - count) with
    | some coefficient => ⟨coefficient, top - count⟩
    | none => interval.shortestFrom top attempts (count + 1)

/-- The shortest decimal of a positive magnitude; seventeen digits always suffice. -/
def shortest (magnitude : Nat) : Scientific :=
  let interval := RoundingInterval.ofMagnitude magnitude
  interval.shortestFrom interval.decimalMagnitude 17 1

/-- The significant digits of a coefficient, without the zeros it ends with. -/
def significantDigits (coefficient : Nat) : List Char :=
  ((digits coefficient).reverse.dropWhile (· == '0')).reverse

/-- An exponent after `e`: a sign and digits. -/
def exponentText (exponent : Int) : List Char :=
  (if exponent < 0 then '-' else '+') :: digits exponent.natAbs

/-- Significant digits whose first one stands for `10 ^ leading`. -/
def placedDigits (ds : List Char) (leading : Int) : List Char :=
  if leading < -5 ∨ 15 < leading then
    match ds with
    | [] => []
    | [d] => d :: 'e' :: exponentText leading
    | d :: rest => d :: '.' :: rest ++ 'e' :: exponentText leading
  else if leading < 0 then
    '0' :: '.' :: List.replicate (-leading - 1).toNat '0' ++ ds
  else
    let whole := ds.take (leading.toNat + 1)
    let fraction := ds.drop (leading.toNat + 1)
    whole ++ List.replicate (leading.toNat + 1 - whole.length) '0' ++
      '.' :: (if fraction.isEmpty then ['0'] else fraction)

/-- The text of a floating-point number. -/
def Binary64.text (x : Binary64) : List Char :=
  let unsigned :=
    if x.magnitude = 0 then ['0', '.', '0']
    else
      let decimal := shortest x.magnitude
      placedDigits (significantDigits decimal.coefficient)
        (decimal.exponent + (digits decimal.coefficient).length - 1)
  if x.negative then '-' :: unsigned else unsigned

end FailoverControl.Decimal
