import FailoverControl.Decimal.Shortest
import FailoverControl.Json.Value
import FailoverControl.Text.Quoted

/-!
# Why a JSON text or value is refused

Either the text breaks the grammar, or it is a value of a kind that was not expected. Each cause
is a constructor, and `DecodeError.message` is the wording.
-/

set_option autoImplicit false

namespace FailoverControl.Json

open FailoverControl.Decimal (Binary64)

/-- The kind of a value that was met where another one was expected. -/
inductive Found where
  | null
  | bool (value : Bool)
  | integer (value : Int)
  | float (value : Binary64)
  | string (value : String)
  | sequence
  | map
deriving DecidableEq, Repr

/-- The first reason for which a text or a value is refused. -/
inductive DecodeError where
  | endInValue
  | endInString
  | endInObject
  | endInList
  | expectedValue
  | expectedIdent
  | expectedColon
  | expectedCommaOrBrace
  | expectedCommaOrBracket
  | keyNotString
  | trailingComma
  | trailingCharacters
  | invalidNumber
  | numberOutOfRange
  | invalidEscape
  | controlCharacter
  | unpairedSurrogate
  | unfinishedSurrogatePair
  | tooDeep
  | typeMismatch (found : Found) (expected : String)
  | outOfRange (value : Int) (expected : String)
  | missingField (name : String)
  | duplicateField (name : String)
  | wrongLength (length : Nat) (expected : String)
deriving DecidableEq, Repr

/-- A kind of value in words. -/
def Found.describe : Found → String
  | .null => "null"
  | .bool true => "boolean `true`"
  | .bool false => "boolean `false`"
  | .integer n => "integer `" ++ Decimal.signedText n ++ "`"
  | .float x => "floating point `" ++ String.ofList x.text ++ "`"
  | .string s => "string " ++ Text.quoted s
  | .sequence => "sequence"
  | .map => "map"

/-- The wording of a refusal. Of a text it tells the offence and not the line and the column. -/
def DecodeError.message : DecodeError → String
  | .endInValue => "EOF while parsing a value"
  | .endInString => "EOF while parsing a string"
  | .endInObject => "EOF while parsing an object"
  | .endInList => "EOF while parsing a list"
  | .expectedValue => "expected value"
  | .expectedIdent => "expected ident"
  | .expectedColon => "expected `:`"
  | .expectedCommaOrBrace => "expected `,` or `\x7d`"
  | .expectedCommaOrBracket => "expected `,` or `]`"
  | .keyNotString => "key must be a string"
  | .trailingComma => "trailing comma"
  | .trailingCharacters => "trailing characters"
  | .invalidNumber => "invalid number"
  | .numberOutOfRange => "number out of range"
  | .invalidEscape => "invalid escape"
  | .controlCharacter => "control character (\\u0000-\\u001F) found while parsing a string"
  | .unpairedSurrogate => "lone leading surrogate in hex escape"
  | .unfinishedSurrogatePair => "unexpected end of hex escape"
  | .tooDeep => "recursion limit exceeded"
  | .typeMismatch found expected =>
    "invalid type: " ++ found.describe ++ ", expected " ++ expected
  | .outOfRange n expected =>
    "invalid value: integer `" ++ Decimal.signedText n ++ "`, expected " ++ expected
  | .missingField name => "missing field `" ++ name ++ "`"
  | .duplicateField name => "duplicate field `" ++ name ++ "`"
  | .wrongLength length expected =>
    "invalid length " ++ Decimal.text length ++ ", expected " ++ expected

/-- The kind of a value. -/
def Value.found : Value → Found
  | .null => .null
  | .bool b => .bool b
  | .integer n => .integer n.value
  | .float x => .float x
  | .string s => .string s
  | .array _ => .sequence
  | .object _ => .map

end FailoverControl.Json
