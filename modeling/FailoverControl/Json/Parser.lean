import FailoverControl.Json.Structure

/-!
# Reading JSON values

`readValue depth` reads one value from the front of a text, with at most `depth` arrays and
objects inside one another. Of two members with the same key the later one stays.
-/

set_option autoImplicit false

namespace FailoverControl.Json

/-- A numeral as a value. -/
def Numeral.toValue : Numeral → Value
  | .integer n => .integer n
  | .float x => .float x

/-- The items of an array, by a reader of one item; `count` bounds their number. -/
def readItems {α : Type} (item : Reader α) : Nat → Bool → Reader (List α)
  | 0, _, _ => .error .endInList
  | count + 1, first, cs => do
    match ← nextItem? first cs with
    | none => return ([], cs)
    | some cs =>
      let (a, cs) ← item cs
      let (rest, cs) ← readItems item count false cs
      return (a :: rest, cs)

/-- The members of an object in the order of the text, by a reader of one value; `count` bounds
their number. -/
def readMembers {α : Type} (item : Reader α) : Nat → Bool → Reader (List (String × α))
  | 0, _, _ => .error .endInObject
  | count + 1, first, cs => do
    match ← nextKey? first cs with
    | none => return ([], cs)
    | some (key, cs) =>
      let cs ← skipColon cs
      let (a, cs) ← item cs
      let (rest, cs) ← readMembers item count false cs
      return ((key, a) :: rest, cs)

/-- An array, after its opening bracket. -/
def readArray {α : Type} (item : Reader α) : Reader (List α) := fun cs => do
  let (items, cs) ← readItems item (cs.length + 1) true cs
  let cs ← endOfArray cs
  return (items, cs)

/-- An object, after its opening brace. -/
def readObject {α : Type} (item : Reader α) : Reader (List (String × α)) := fun cs => do
  let (members, cs) ← readMembers item (cs.length + 1) true cs
  let cs ← endOfObject cs
  return (members, cs)

/-- A value that is neither an array nor an object; its first character is at the front. -/
def readScalar : Reader Value
  | [] => .error .endInValue
  | 'n' :: rest => (skipWord ['u', 'l', 'l'] rest).map fun cs => (.null, cs)
  | 't' :: rest => (skipWord ['r', 'u', 'e'] rest).map fun cs => (.bool true, cs)
  | 'f' :: rest => (skipWord ['a', 'l', 's', 'e'] rest).map fun cs => (.bool false, cs)
  | '"' :: rest => (readString rest).map fun (s, cs) => (.string s, cs)
  | '-' :: rest => (readNumeral true rest).map fun (n, cs) => (n.toValue, cs)
  | c :: rest =>
    if c.isDigit then (readNumeral false (c :: rest)).map fun (n, cs) => (n.toValue, cs)
    else .error .expectedValue

/-- A value with at most `depth` arrays and objects inside one another. -/
def readValue : (depth : Nat) → Reader Value
  | 0, cs =>
    match skipBlank cs with
    | '[' :: _ => .error .tooDeep
    | '\x7b' :: _ => .error .tooDeep
    | cs => readScalar cs
  | depth + 1, cs =>
    match skipBlank cs with
    | '[' :: rest => (readArray (readValue depth) rest).map fun (items, cs) => (.array items, cs)
    | '\x7b' :: rest =>
      (readObject (readValue depth) rest).map fun (members, cs) => (.ofMembers members, cs)
    | cs => readScalar cs

/-- The value of a text. -/
def parse (text : String) : Except DecodeError Value :=
  readAll (readValue maxDepth) text

end FailoverControl.Json
