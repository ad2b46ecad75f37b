import FailoverControl.Text.Hidden

/-!
# Quoted texts

A text as it is shown inside double quotes in a diagnostic: quotes and backslashes are escaped,
the usual control characters have a letter of their own, and every other hidden character is
spelled out by its code point.
-/

set_option autoImplicit false

namespace FailoverControl.Text

/-- The digit of value `n`, below sixteen, in lower case. -/
def hexDigit (n : Nat) : Char :=
  if n < 10 then Char.ofNat ('0'.toNat + n) else Char.ofNat ('a'.toNat + (n - 10))

/-- A number in base sixteen, without leading zeros. -/
def hexText (n : Nat) : List Char :=
  if n < 16 then [hexDigit n] else hexText (n / 16) ++ [hexDigit (n % 16)]
termination_by n

/-- The quoted form of one character. -/
def quotedChar (c : Char) : List Char :=
  match c with
  | '\x00' => ['\\', '0']
  | '\t' => ['\\', 't']
  | '\r' => ['\\', 'r']
  | '\n' => ['\\', 'n']
  | '\\' => ['\\', '\\']
  | '"' => ['\\', '"']
  | c => if isHidden c then ['\\', 'u', '\x7b'] ++ hexText c.toNat ++ ['\x7d'] else [c]

/-- A text between double quotes, with everything in it that is not plain escaped. -/
def quoted (s : String) : String :=
  String.ofList ('"' :: s.toList.flatMap quotedChar ++ ['"'])

end FailoverControl.Text
