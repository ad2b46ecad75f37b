import FailoverControl.Text.Ranges

/-!
# Blank characters

The characters with the Unicode property `White_Space`, and cutting them off both ends of a text.
-/

set_option autoImplicit false

namespace FailoverControl.Text

/-- The code points with the Unicode property `White_Space`, as closed ranges. -/
def blankRanges : Ranges :=
  [(0x09, 0x0d), (0x20, 0x20), (0x85, 0x85), (0xa0, 0xa0), (0x1680, 0x1680), (0x2000, 0x200a),
    (0x2028, 0x2029), (0x202f, 0x202f), (0x205f, 0x205f), (0x3000, 0x3000)]

/-- Whether a character is blank. -/
def isBlank (c : Char) : Bool :=
  inRanges blankRanges c

/-- The text without the blanks it ends with. -/
def trimEnd (cs : List Char) : List Char :=
  (cs.reverse.dropWhile isBlank).reverse

/-- The text without the blanks at both ends. -/
def trim (cs : List Char) : List Char :=
  trimEnd (cs.dropWhile isBlank)

/-- The trimmed text of `s`. -/
def trimmed (s : String) : String :=
  String.ofList (trim s.toList)

end FailoverControl.Text
