/-!
# Ranges of code points

A class of characters is written as a list of closed ranges of code points.
-/

set_option autoImplicit false

namespace FailoverControl.Text

/-- Closed ranges of code points. -/
abbrev Ranges : Type := List (Nat × Nat)

/-- Whether the code point of a character lies in one of the ranges. -/
def inRanges (ranges : Ranges) (c : Char) : Bool :=
  ranges.any fun range => range.1 ≤ c.toNat && c.toNat ≤ range.2

end FailoverControl.Text
