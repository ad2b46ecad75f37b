import FailoverControl.Json.Parser

/-!
# Reading what is expected

Readers of a text that want a value of one kind, and views of a value as that kind. Anything else
is refused with the kind that was found and the kind that was expected.
-/

set_option autoImplicit false

namespace FailoverControl.Json

/-- Refuses the value at the front of a text because another kind was expected. A value that is
itself malformed is refused for that. -/
def refuseValue {α : Type} (expected : String) (cs : List Char) : Except DecodeError α :=
  match cs with
  | '[' :: _ => .error (.typeMismatch .sequence expected)
  | '\x7b' :: _ => .error (.typeMismatch .map expected)
  | cs =>
    match readScalar cs with
    | .error e => .error e
    | .ok (v, _) => .error (.typeMismatch v.found expected)

/-- An integer between two bounds. -/
def readIntegerIn (lower upper : Int) (expected : String) : Reader Int := fun cs =>
  match skipBlank cs with
  | [] => .error .endInValue
  | c :: rest =>
    if c = '-' ∨ c.isDigit then
      match readScalar (c :: rest) with
      | .error e => .error e
      | .ok (.integer n, cs) =>
        if lower ≤ n.value ∧ n.value ≤ upper then .ok (n.value, cs)
        else .error (.outOfRange n.value expected)
      | .ok (v, _) => .error (.typeMismatch v.found expected)
    else refuseValue expected (c :: rest)

/-- A signed word. -/
def readInt64 : Reader Int64 := fun cs =>
  (readIntegerIn (-9223372036854775808) 9223372036854775807 "i64" cs).map fun (n, cs) =>
    (.ofInt n, cs)

/-- A signed half word. -/
def readInt32 : Reader Int32 := fun cs =>
  (readIntegerIn (-2147483648) 2147483647 "i32" cs).map fun (n, cs) => (.ofInt n, cs)

/-- An unsigned word. -/
def readUInt64 : Reader UInt64 := fun cs =>
  (readIntegerIn 0 18446744073709551615 "u64" cs).map fun (n, cs) => (.ofNat n.toNat, cs)

/-- A string. -/
def readText : Reader String := fun cs =>
  match skipBlank cs with
  | [] => .error .endInValue
  | '"' :: rest => readString rest
  | cs => refuseValue "a string" cs

/-- Something, or `null`. -/
def readOptional {α : Type} (reader : Reader α) : Reader (Option α) := fun cs =>
  match skipBlank cs with
  | 'n' :: rest => (skipWord ['u', 'l', 'l'] rest).map fun cs => (none, cs)
  | cs => (reader cs).map fun (a, cs) => (some a, cs)

namespace Value

/-- Refuses a value because another kind was expected. -/
def refuse {α : Type} (expected : String) (v : Value) : Except DecodeError α :=
  .error (.typeMismatch v.found expected)

/-- The truth value that a value is. -/
def asBool : Value → Except DecodeError Bool
  | .bool b => .ok b
  | v => v.refuse "a boolean"

/-- The text that a value is. -/
def asText : Value → Except DecodeError String
  | .string s => .ok s
  | v => v.refuse "a string"

/-- The texts of which a value is the list. -/
def asTexts : Value → Except DecodeError (List String)
  | .array items => items.mapM asText
  | v => v.refuse "a sequence"

end Value

end FailoverControl.Json
