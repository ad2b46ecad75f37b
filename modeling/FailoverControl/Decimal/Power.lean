/-!
# Powers of two and ten

The two bases between which decimals and floating-point numbers are converted.
-/

set_option autoImplicit false

namespace FailoverControl.Decimal

/-- A power of two. -/
def twoTo (exponent : Nat) : Nat := Nat.pow 2 exponent

/-- A power of ten. -/
def tenTo (exponent : Nat) : Nat := Nat.pow 10 exponent

end FailoverControl.Decimal
