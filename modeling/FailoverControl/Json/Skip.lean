import FailoverControl.Json.Structure

/-!
# Passing over JSON values

A member that nobody asks for is passed over. It may be nested to any depth, and only its outer
form is checked: after a comma an array wants another value and an object another key.
-/

set_option autoImplicit false

namespace FailoverControl.Json

/-- The rest of a text after a value that is neither an array nor an object. -/
def skipScalar : List Char → Except DecodeError (List Char)
  | [] => .error .endInValue
  | 'n' :: rest => skipWord ['u', 'l', 'l'] rest
  | 't' :: rest => skipWord ['r', 'u', 'e'] rest
  | 'f' :: rest => skipWord ['a', 'l', 's', 'e'] rest
  | '"' :: rest => skipStringBody rest
  | '-' :: rest => skipNumeral rest
  | c :: rest => if c.isDigit then skipNumeral (c :: rest) else .error .expectedValue

/-- The rest of a text after the items of an array and its closing bracket; an item is due. -/
def skipItems (item : List Char → Except DecodeError (List Char)) :
    Nat → List Char → Except DecodeError (List Char)
  | 0, _ => .error .endInList
  | count + 1, cs => do
    let cs ← item cs
    match skipBlank cs with
    | [] => throw .endInList
    | ']' :: rest => return rest
    | ',' :: rest => skipItems item count rest
    | _ => throw .expectedCommaOrBracket

/-- The rest of a text after a key and its colon. -/
def skipKey (cs : List Char) : Except DecodeError (List Char) :=
  match skipBlank cs with
  | [] => .error .endInObject
  | '"' :: rest => skipStringBody rest >>= skipColon
  | _ => .error .keyNotString

/-- The rest of a text after the members of an object and its closing brace; a member is due. -/
def skipMembers (item : List Char → Except DecodeError (List Char)) :
    Nat → List Char → Except DecodeError (List Char)
  | 0, _ => .error .endInObject
  | count + 1, cs => do
    let cs ← skipKey cs
    let cs ← item cs
    match skipBlank cs with
    | [] => throw .endInObject
    | '\x7d' :: rest => return rest
    | ',' :: rest => skipMembers item count rest
    | _ => throw .expectedCommaOrBrace

/-- The rest of a text after a value, which is no longer than `size` characters. -/
def skipWithin : (size : Nat) → List Char → Except DecodeError (List Char)
  | 0, _ => .error .endInValue
  | size + 1, cs =>
    match skipBlank cs with
    | '[' :: rest =>
      match skipBlank rest with
      | [] => .error .endInList
      | ']' :: rest => .ok rest
      | _ => skipItems (skipWithin size) size rest
    | '\x7b' :: rest =>
      match skipBlank rest with
      | [] => .error .endInObject
      | '\x7d' :: rest => .ok rest
      | _ => skipMembers (skipWithin size) size rest
    | cs => skipScalar cs

/-- The rest of a text after a value. -/
def skipValue (cs : List Char) : Except DecodeError (List Char) :=
  skipWithin (cs.length + 1) cs

end FailoverControl.Json
