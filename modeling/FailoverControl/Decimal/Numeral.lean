/-!
# What counts as a number

A number may have a sign, digits on one or both sides of a point, and an exponent; infinity and what
is no number are written as words in any case.
-/

set_option autoImplicit false

namespace FailoverControl.Decimal

/-- The text behind a sign, if there is one. -/
def behindSign : List Char → List Char
  | '+' :: rest => rest
  | '-' :: rest => rest
  | cs => cs

/-- Whether a text consists of digits, at least one. -/
def isDigits (cs : List Char) : Bool :=
  !cs.isEmpty && cs.all Char.isDigit

/-- Whether a text is an exponent or nothing. -/
def isExponent : List Char → Bool
  | [] => true
  | c :: rest => (c = 'e' || c = 'E') && isDigits (behindSign rest)

/-- Whether a text is digits with at most one point, and perhaps an exponent. -/
def isUnsignedNumeral (cs : List Char) : Bool :=
  let (whole, rest) := cs.span Char.isDigit
  match rest with
  | '.' :: rest =>
    let (fraction, rest) := rest.span Char.isDigit
    !(whole.isEmpty && fraction.isEmpty) && isExponent rest
  | rest => !whole.isEmpty && isExponent rest

/-- The words for infinity and for what is no number. -/
def numeralWords : List (List Char) :=
  [['i', 'n', 'f'], ['i', 'n', 'f', 'i', 'n', 'i', 't', 'y'], ['n', 'a', 'n']]

/-- Whether a text counts as a number. -/
def isNumeral (cs : List Char) : Bool :=
  isUnsignedNumeral (behindSign cs) || numeralWords.contains ((behindSign cs).map Char.toLower)

end FailoverControl.Decimal
