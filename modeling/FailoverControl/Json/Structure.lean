import FailoverControl.Json.Token

/-!
# The brackets and commas of a JSON text

Where the next item of an array and the next member of an object begin, and how both end. These
are shared by the readers of values and of records, so that both refuse the same texts for the
same reasons.
-/

set_option autoImplicit false

namespace FailoverControl.Json

/-- Finds the next item of an array: the text from that item on, or nothing in front of the
closing bracket. Every item but the first one has a comma before it. -/
def nextItem? (first : Bool) (cs : List Char) : Except DecodeError (Option (List Char)) :=
  match skipBlank cs with
  | [] => .error .endInList
  | ']' :: _ => .ok none
  | c :: rest =>
    if first then .ok (some (c :: rest))
    else if c = ',' then
      match skipBlank rest with
      | [] => .error .endInValue
      | ']' :: _ => .error .trailingComma
      | cs => .ok (some cs)
    else .error .expectedCommaOrBracket

/-- The rest of a text after the closing bracket of an array whose items have been read. -/
def endOfArray (cs : List Char) : Except DecodeError (List Char) :=
  match skipBlank cs with
  | [] => .error .endInList
  | ']' :: rest => .ok rest
  | ',' :: rest =>
    match skipBlank rest with
    | ']' :: _ => .error .trailingComma
    | _ => .error .trailingCharacters
  | _ => .error .trailingCharacters

/-- Finds the next member of an object: its key and the text after it, or nothing in front of the
closing brace. Every member but the first one has a comma before it. -/
def nextKey? (first : Bool) (cs : List Char) :
    Except DecodeError (Option (String × List Char)) :=
  match skipBlank cs with
  | [] => .error .endInObject
  | '\x7d' :: _ => .ok none
  | c :: rest =>
    if first then
      if c = '"' then (readString rest).map some else .error .keyNotString
    else if c = ',' then
      match skipBlank rest with
      | [] => .error .endInValue
      | '"' :: rest => (readString rest).map some
      | '\x7d' :: _ => .error .trailingComma
      | _ => .error .keyNotString
    else .error .expectedCommaOrBrace

/-- The rest of a text after the closing brace of an object whose members have been read. -/
def endOfObject (cs : List Char) : Except DecodeError (List Char) :=
  match skipBlank cs with
  | [] => .error .endInObject
  | '\x7d' :: rest => .ok rest
  | ',' :: _ => .error .trailingComma
  | _ => .error .trailingCharacters

/-- The rest of a text after the colon behind a key. -/
def skipColon (cs : List Char) : Except DecodeError (List Char) :=
  match skipBlank cs with
  | [] => .error .endInObject
  | ':' :: rest => .ok rest
  | _ => .error .expectedColon

/-- How many arrays and objects may stand inside one another. -/
def maxDepth : Nat := 127

/-- Reads a whole text: one thing, and nothing but blanks after it. -/
def readAll {α : Type} (reader : Reader α) (text : String) : Except DecodeError α :=
  match reader text.toList with
  | .error e => .error e
  | .ok (a, rest) =>
    match skipBlank rest with
    | [] => .ok a
    | _ :: _ => .error .trailingCharacters

end FailoverControl.Json
