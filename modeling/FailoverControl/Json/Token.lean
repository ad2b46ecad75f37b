import FailoverControl.Json.Error

/-!
# The tokens of a JSON text

Blanks, words, numerals and strings, each read from the front of a list of characters. A reader
returns what it read and the rest of the text, or the first reason to refuse the text.

A numeral keeps as many leading digits as fit 64 bits; the digits after them only move the
decimal point. It is an integer when it has neither fraction nor exponent, loses no digit and is
not `-0`; every other numeral is a float.
-/

set_option autoImplicit false

namespace FailoverControl.Json

open FailoverControl.Decimal (Binary64 ofDigits digitValue)

/-- Reads something from the front of a text and leaves the rest. -/
abbrev Reader (α : Type) : Type :=
  List Char → Except DecodeError (α × List Char)

/-- The blanks between tokens. -/
def isSeparator (c : Char) : Bool :=
  c == ' ' || c == '\n' || c == '\t' || c == '\r'

/-- The text from its first character on that is no blank between tokens. -/
def skipBlank (cs : List Char) : List Char :=
  cs.dropWhile isSeparator

/-- The rest of a text after the remaining letters of a word. -/
def skipWord : List Char → List Char → Except DecodeError (List Char)
  | [], cs => .ok cs
  | _ :: _, [] => .error .endInValue
  | w :: ws, c :: cs => if c = w then skipWord ws cs else .error .expectedIdent

/-! ## Numerals -/

/-- A numeral is an exact integer or a float. -/
inductive Numeral where
  | integer (value : Integer)
  | float (value : Binary64)
deriving DecidableEq, Repr

/-- Appends digits to a number while it fits 64 bits, and returns the digits left over. -/
def absorbDigits : Nat → List Char → Nat × List Char
  | n, [] => (n, [])
  | n, c :: cs =>
    let next := 10 * n + digitValue c
    if next < 18446744073709551616 then absorbDigits next cs else (n, c :: cs)

/-- The float `±significand · 10 ^ exponent`. -/
def floatNumeral (negative : Bool) (significand : Nat) (exponent : Int) :
    Except DecodeError Numeral :=
  match Binary64.ofDecimal? negative significand exponent with
  | some x => .ok (.float x)
  | none => .error .numberOutOfRange

/-- A numeral without fraction and exponent whose digits fit 64 bits. -/
def wholeNumeral (negative : Bool) (n : Nat) : Except DecodeError Numeral :=
  if negative && n = 0 then .ok (.float (.zero true))
  else
    match Integer.ofInt? (if negative then -(n : Int) else n) with
    | some i => .ok (.integer i)
    | none => floatNumeral negative n 0

/-- The greatest exponent that is looked at digit by digit. -/
def maxExponent : Nat := 2147483647

/-- The digits of an exponent, after its sign. -/
def readExponentDigits (negative : Bool) (significand : Nat) (start : Int) (negativeExponent : Bool)
    (cs : List Char) : Except DecodeError (Numeral × List Char) :=
  let ds := cs.takeWhile Char.isDigit
  let rest := cs.dropWhile Char.isDigit
  if ds.isEmpty then
    .error (if cs.isEmpty then .endInValue else .invalidNumber)
  else if maxExponent < ofDigits ds then
    if significand ≠ 0 && !negativeExponent then .error .numberOutOfRange
    else .ok (.float (.zero negative), rest)
  else
    let exponent : Int := if negativeExponent then -(ofDigits ds : Int) else ofDigits ds
    (floatNumeral negative significand (start + exponent)).map fun n => (n, rest)

/-- An exponent, after its letter. -/
def readExponent (negative : Bool) (significand : Nat) (start : Int) (cs : List Char) :
    Except DecodeError (Numeral × List Char) :=
  match cs with
  | '+' :: rest => readExponentDigits negative significand start false rest
  | '-' :: rest => readExponentDigits negative significand start true rest
  | rest => readExponentDigits negative significand start false rest

/-- The end of a numeral that already has a fraction. -/
def readAfterFraction (negative : Bool) (significand : Nat) (exponent : Int) (cs : List Char) :
    Except DecodeError (Numeral × List Char) :=
  match cs with
  | 'e' :: rest => readExponent negative significand exponent rest
  | 'E' :: rest => readExponent negative significand exponent rest
  | rest => (floatNumeral negative significand exponent).map fun n => (n, rest)

/-- A fraction, after its point. -/
def readFraction (negative : Bool) (significand dropped : Nat) (cs : List Char) :
    Except DecodeError (Numeral × List Char) :=
  let ds := cs.takeWhile Char.isDigit
  if ds.isEmpty then
    .error (if cs.isEmpty then .endInValue else .invalidNumber)
  else
    let (longer, left) := absorbDigits significand ds
    readAfterFraction negative longer ((dropped : Int) - ((ds.length : Int) - left.length))
      (cs.dropWhile Char.isDigit)

/-- What follows the whole part of a numeral, of which `dropped` digits did not fit. -/
def readAfterWhole (negative : Bool) (significand dropped : Nat) (cs : List Char) :
    Except DecodeError (Numeral × List Char) :=
  match cs with
  | '.' :: rest => readFraction negative significand dropped rest
  | 'e' :: rest => readExponent negative significand dropped rest
  | 'E' :: rest => readExponent negative significand dropped rest
  | rest =>
    if dropped = 0 then (wholeNumeral negative significand).map fun n => (n, rest)
    else (floatNumeral negative significand dropped).map fun n => (n, rest)

/-- A numeral, after its sign. A zero that starts it is its whole part. -/
def readNumeral (negative : Bool) : Reader Numeral
  | [] => .error .endInValue
  | '0' :: rest =>
    if (rest.head?.any Char.isDigit) then .error .invalidNumber
    else readAfterWhole negative 0 0 rest
  | c :: rest =>
    if c.isDigit then
      let cs := c :: rest
      let (significand, left) := absorbDigits 0 (cs.takeWhile Char.isDigit)
      readAfterWhole negative significand left.length (cs.dropWhile Char.isDigit)
    else .error .invalidNumber

/-! ## Strings -/

/-- The value of a hexadecimal digit. -/
def hexValue? (c : Char) : Option Nat :=
  if '0' ≤ c ∧ c ≤ '9' then some (c.toNat - '0'.toNat)
  else if 'a' ≤ c ∧ c ≤ 'f' then some (c.toNat - 'a'.toNat + 10)
  else if 'A' ≤ c ∧ c ≤ 'F' then some (c.toNat - 'A'.toNat + 10)
  else none

/-- The number of four hexadecimal digits. -/
def hexQuad? (a b c d : Char) : Option Nat := do
  let a ← hexValue? a
  let b ← hexValue? b
  let c ← hexValue? c
  let d ← hexValue? d
  return ((a * 16 + b) * 16 + c) * 16 + d

/-- Why an escape by number stops with fewer than four characters left: the text ends, unless the
characters left are at least four bytes long. -/
def shortEscape (cs : List Char) : DecodeError :=
  if (String.ofList cs).utf8ByteSize < 4 then .endInString else .invalidEscape

/-- Whether a code unit opens a surrogate pair. -/
def isHighSurrogate (n : Nat) : Bool := 0xd800 ≤ n && n ≤ 0xdbff

/-- Whether a code unit closes a surrogate pair. -/
def isLowSurrogate (n : Nat) : Bool := 0xdc00 ≤ n && n ≤ 0xdfff

/-- The code point of a surrogate pair. -/
def pairedSurrogates (high low : Nat) : Nat :=
  (high - 0xd800) * 0x400 + (low - 0xdc00) + 0x10000

/-- The character that a one-letter escape stands for. -/
def letterEscape? (c : Char) : Option Char :=
  match c with
  | '"' => some '"'
  | '\\' => some '\\'
  | '/' => some '/'
  | 'b' => some '\x08'
  | 'f' => some '\x0c'
  | 'n' => some '\n'
  | 'r' => some '\r'
  | 't' => some '\t'
  | _ => none

/-- Puts a character in front of a string that was read. -/
def consChar (c : Char) (read : Except DecodeError (List Char × List Char)) :
    Except DecodeError (List Char × List Char) :=
  read.map fun (cs, rest) => (c :: cs, rest)

/-- The characters of a string up to its closing quote, after the opening one. -/
def readStringBody : List Char → Except DecodeError (List Char × List Char)
  | [] => .error .endInString
  | '"' :: rest => .ok ([], rest)
  | '\\' :: [] => .error .endInString
  | '\\' :: 'u' :: a :: b :: c :: d :: rest =>
    match hexQuad? a b c d with
    | none => .error .invalidEscape
    | some n =>
      if isLowSurrogate n then .error .unpairedSurrogate
      else if isHighSurrogate n then
        match rest with
        | [] => .error .endInString
        | '\\' :: [] => .error .endInString
        | '\\' :: 'u' :: e :: f :: g :: h :: rest =>
          match hexQuad? e f g h with
          | none => .error .invalidEscape
          | some m =>
            if isLowSurrogate m then
              consChar (Char.ofNat (pairedSurrogates n m)) (readStringBody rest)
            else .error .unpairedSurrogate
        | '\\' :: 'u' :: rest => .error (shortEscape rest)
        | _ => .error .unfinishedSurrogatePair
      else consChar (Char.ofNat n) (readStringBody rest)
  | '\\' :: 'u' :: rest => .error (shortEscape rest)
  | '\\' :: c :: rest =>
    match letterEscape? c with
    | some e => consChar e (readStringBody rest)
    | none => .error .invalidEscape
  | c :: rest =>
    if c.toNat < 0x20 then .error .controlCharacter else consChar c (readStringBody rest)

/-- A string, after its opening quote. -/
def readString (cs : List Char) : Except DecodeError (String × List Char) :=
  (readStringBody cs).map fun (body, rest) => (String.ofList body, rest)

/-! ## Tokens that are passed over

A value nobody looks at is only checked for its outer form: numbers may be out of range and
surrogates unpaired. -/

/-- The rest of a text after a string, which starts after its opening quote. -/
def skipStringBody : List Char → Except DecodeError (List Char)
  | [] => .error .endInString
  | '"' :: rest => .ok rest
  | '\\' :: [] => .error .endInString
  | '\\' :: 'u' :: a :: b :: c :: d :: rest =>
    match hexQuad? a b c d with
    | none => .error .invalidEscape
    | some _ => skipStringBody rest
  | '\\' :: 'u' :: rest => .error (shortEscape rest)
  | '\\' :: c :: rest =>
    match letterEscape? c with
    | some _ => skipStringBody rest
    | none => .error .invalidEscape
  | c :: rest => if c.toNat < 0x20 then .error .controlCharacter else skipStringBody rest

/-- The rest of a text after the digits of an exponent. -/
def skipExponentDigits (cs : List Char) : Except DecodeError (List Char) :=
  if (cs.head?.any Char.isDigit) then .ok (cs.dropWhile Char.isDigit) else .error .invalidNumber

/-- The rest of a text after an exponent, which starts after its letter. -/
def skipExponent (cs : List Char) : Except DecodeError (List Char) :=
  match cs with
  | '+' :: rest => skipExponentDigits rest
  | '-' :: rest => skipExponentDigits rest
  | rest => skipExponentDigits rest

/-- The rest of a text after what follows the whole part or the fraction of a numeral. -/
def skipOptionalExponent (cs : List Char) : Except DecodeError (List Char) :=
  match cs with
  | 'e' :: rest => skipExponent rest
  | 'E' :: rest => skipExponent rest
  | rest => .ok rest

/-- The rest of a text after what follows the whole part of a numeral. -/
def skipAfterWhole (cs : List Char) : Except DecodeError (List Char) :=
  match cs with
  | '.' :: rest =>
    if (rest.head?.any Char.isDigit) then skipOptionalExponent (rest.dropWhile Char.isDigit)
    else .error .invalidNumber
  | rest => skipOptionalExponent rest

/-- The rest of a text after a numeral, which starts after its sign. -/
def skipNumeral (cs : List Char) : Except DecodeError (List Char) :=
  match cs with
  | '0' :: rest =>
    if (rest.head?.any Char.isDigit) then .error .invalidNumber else skipAfterWhole rest
  | c :: rest =>
    if c.isDigit then skipAfterWhole (rest.dropWhile Char.isDigit) else .error .invalidNumber
  | [] => .error .invalidNumber

end FailoverControl.Json
