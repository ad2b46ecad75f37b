import FailoverControl.Decimal.Digits

/-!
# Reading bounded numbers

An unsigned number is written as decimal digits, possibly behind a plus sign and leading zeros.
The first character that is no digit, or the first digit with which the number leaves its bound,
decides how a text is refused.
-/

set_option autoImplicit false

namespace FailoverControl.Decimal

/-- Why a text is no number. -/
inductive NumberError where
  | empty
  | invalidDigit
  | tooLarge
deriving DecidableEq, Repr

/-- The wording of a refused number. -/
def NumberError.message : NumberError → String
  | .empty => "cannot parse integer from empty string"
  | .invalidDigit => "invalid digit found in string"
  | .tooLarge => "number too large to fit in target type"

/-- Reads on after the number `n`. -/
def readDigits (bound : Nat) : Nat → List Char → Except NumberError Nat
  | n, [] => .ok n
  | n, c :: cs =>
    if !c.isDigit then .error .invalidDigit
    else if bound < 10 * n + digitValue c then .error .tooLarge
    else readDigits bound (10 * n + digitValue c) cs

/-- Reads a number that is at most `bound`. -/
def readUnsigned (bound : Nat) : List Char → Except NumberError Nat
  | [] => .error .empty
  | ['+'] => .error .invalidDigit
  | '+' :: cs => readDigits bound 0 cs
  | cs => readDigits bound 0 cs

end FailoverControl.Decimal
