import FailoverControl.Decimal.Power

/-!
# Binary floating-point numbers of 64 bits

A finite number is a sign and a magnitude pattern, whose upper bits are the exponent field and
whose lower 52 bits are the fraction. All arithmetic is exact: a magnitude is a whole number of
units of `2 ^ (-1074)`, and a result is the quotient of two naturals rounded to the nearest
magnitude, ties to the even pattern.
-/

set_option autoImplicit false

namespace FailoverControl.Decimal

/-- The least magnitude pattern that stands for no finite number. -/
def infinitePattern : Nat := 0x7ff0000000000000

/-- A finite floating-point number. -/
structure Binary64 where
  negative : Bool
  magnitude : Nat
  finite : magnitude < infinitePattern
deriving DecidableEq, Repr

/-- How many units of `2 ^ (-1074)` a magnitude pattern stands for. -/
def unitsOf (magnitude : Nat) : Nat :=
  let field := magnitude / twoTo 52
  let fraction := magnitude % twoTo 52
  if field = 0 then fraction else (twoTo 52 + fraction) * twoTo (field - 1)

/-- The quotient of two naturals rounded to the nearest natural, a tie to the even one. -/
def roundQuotient (num den : Nat) : Nat :=
  let quotient := num / den
  let rest := num % den
  if 2 * rest < den then quotient
  else if den < 2 * rest then quotient + 1
  else quotient + quotient % 2

/-- The greatest `e` with `2 ^ e ≤ num / den`, for a positive quotient. -/
def floorLog2 (num den : Nat) : Int :=
  let guess : Int := (num.log2 : Int) - den.log2
  if den * twoTo guess.toNat ≤ num * twoTo (-guess).toNat then guess else guess - 1

/-- The magnitude pattern nearest to a quotient; not below `infinitePattern` on overflow. -/
def nearestMagnitude (num den : Nat) : Nat :=
  if num = 0 then 0
  else
    let exponent := max (floorLog2 num den - 52) (-1074)
    let significand := roundQuotient (num * twoTo (-exponent).toNat) (den * twoTo exponent.toNat)
    (exponent + 1074).toNat * twoTo 52 + significand

namespace Binary64

/-- Zero, of either sign. -/
def zero (negative : Bool) : Binary64 :=
  ⟨negative, 0, by decide⟩

/-- The finite number nearest to a quotient, unless the quotient is too large. -/
def ofQuotient? (negative : Bool) (num den : Nat) : Option Binary64 :=
  let magnitude := nearestMagnitude num den
  if h : magnitude < infinitePattern then some ⟨negative, magnitude, h⟩ else none

/-- The number of units of `2 ^ (-1074)` in the absolute value. -/
def units (x : Binary64) : Nat :=
  unitsOf x.magnitude

/-- The absolute value times a power of ten with a nonnegative exponent. The power is itself
rounded to a floating-point number first. -/
def timesPowerOfTen? (x : Binary64) (exponent : Nat) : Option Binary64 :=
  ofQuotient? x.negative (x.units * unitsOf (nearestMagnitude (tenTo exponent) 1)) (twoTo 2148)

/-- The absolute value divided by a power of ten, which is rounded to a floating-point number
first. -/
def dividedByPowerOfTen? (x : Binary64) (exponent : Nat) : Option Binary64 :=
  ofQuotient? x.negative x.units (unitsOf (nearestMagnitude (tenTo exponent) 1))

/-- The greatest exponent of ten that a finite number reaches. -/
def maxPowerOfTen : Nat := 308

/-- A number scaled by a power of ten: once by a product for exponents up to 308, else by
quotients of at most `10 ^ 308` at a time. Nothing is returned when the result is too large. -/
def scaled? (x : Binary64) (exponent : Int) : Option Binary64 :=
  if 0 ≤ exponent then
    if exponent ≤ maxPowerOfTen then x.timesPowerOfTen? exponent.toNat
    else if x.magnitude = 0 then some x else none
  else if -(maxPowerOfTen : Int) ≤ exponent then x.dividedByPowerOfTen? (-exponent).toNat
  else if x.magnitude = 0 then some x
  else
    match x.dividedByPowerOfTen? maxPowerOfTen with
    | none => none
    | some y => y.scaled? (exponent + maxPowerOfTen)
termination_by exponent.natAbs
decreasing_by simp only [maxPowerOfTen] at *; omega

/-- The number `±significand · 10 ^ exponent`, computed from the rounded significand. -/
def ofDecimal? (negative : Bool) (significand : Nat) (exponent : Int) : Option Binary64 :=
  match ofQuotient? negative significand 1 with
  | none => none
  | some x => x.scaled? exponent

end Binary64

end FailoverControl.Decimal
