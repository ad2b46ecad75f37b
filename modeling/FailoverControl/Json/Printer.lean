import FailoverControl.Decimal.Shortest
import FailoverControl.Json.Value
import FailoverControl.Text.Quoted

/-!
# The compact text of a JSON value

No blanks between the tokens, members in the order in which the value holds them. Inside strings
quotes, backslashes and control characters are escaped and everything else is written as it is.
-/

set_option autoImplicit false

namespace FailoverControl.Json

/-- The written form of one character of a string. -/
def escapeChar (c : Char) : List Char :=
  match c with
  | '"' => ['\\', '"']
  | '\\' => ['\\', '\\']
  | '\x08' => ['\\', 'b']
  | '\x0c' => ['\\', 'f']
  | '\n' => ['\\', 'n']
  | '\r' => ['\\', 'r']
  | '\t' => ['\\', 't']
  | c =>
    if c.toNat < 0x20 then
      ['\\', 'u', '0', '0', Text.hexDigit (c.toNat / 16), Text.hexDigit (c.toNat % 16)]
    else [c]

/-- A string between double quotes. -/
def stringText (s : String) : List Char :=
  '"' :: s.toList.flatMap escapeChar ++ ['"']

mutual

/-- The text of a value. -/
def Value.chars : Value → List Char
  | .null => ['n', 'u', 'l', 'l']
  | .bool true => ['t', 'r', 'u', 'e']
  | .bool false => ['f', 'a', 'l', 's', 'e']
  | .integer n => Decimal.signedDigits n.value
  | .float x => x.text
  | .string s => stringText s
  | .array items => '[' :: itemsText items
  | .object members => '\x7b' :: membersText members

/-- The items of an array up to its closing bracket. -/
def itemsText : List Value → List Char
  | [] => [']']
  | [v] => v.chars ++ [']']
  | v :: w :: rest => v.chars ++ ',' :: itemsText (w :: rest)

/-- The members of an object up to its closing brace. -/
def membersText : List (String × Value) → List Char
  | [] => ['\x7d']
  | [(key, v)] => stringText key ++ ':' :: v.chars ++ ['\x7d']
  | (key, v) :: m :: rest => stringText key ++ ':' :: v.chars ++ ',' :: membersText (m :: rest)

end

/-- The text of a value. -/
def Value.text (v : Value) : String :=
  String.ofList v.chars

end FailoverControl.Json
