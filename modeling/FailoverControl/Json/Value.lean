import FailoverControl.Decimal.Binary64

/-!
# JSON values

Integers are exact between `-2 ^ 63` and `2 ^ 64 - 1`, every other number is a float. The members
of an object are kept in ascending order of their keys, one member a key, when they are put in by
`insertMember`; the order on strings is the one of their code points.
-/

set_option autoImplicit false

namespace FailoverControl.Json

open FailoverControl.Decimal (Binary64)

/-- An integer that is represented exactly. -/
structure Integer where
  value : Int
  lower : -9223372036854775808 ≤ value
  upper : value ≤ 18446744073709551615
deriving DecidableEq, Repr

namespace Integer

/-- The integer `n`, if it is represented exactly. -/
def ofInt? (n : Int) : Option Integer :=
  if h : -9223372036854775808 ≤ n ∧ n ≤ 18446744073709551615 then some ⟨n, h.1, h.2⟩ else none

/-- An unsigned word as an integer. -/
def ofUInt64 (n : UInt64) : Integer :=
  ⟨n.toNat, by omega, by have := n.toNat_lt; omega⟩

/-- A signed word as an integer. -/
def ofInt64 (n : Int64) : Integer :=
  ⟨n.toInt, by have := n.le_toInt; omega, by have := n.toInt_lt; omega⟩

/-- A signed half word as an integer. -/
def ofInt32 (n : Int32) : Integer :=
  ⟨n.toInt, by have := n.le_toInt; omega, by have := n.toInt_lt; omega⟩

end Integer

/-- A JSON value. -/
inductive Value where
  | null
  | bool (value : Bool)
  | integer (value : Integer)
  | float (value : Binary64)
  | string (value : String)
  | array (items : List Value)
  | object (members : List (String × Value))
deriving Inhabited, Repr

/-- Puts a member into its place among members in ascending order; a member with the same key is
replaced. -/
def insertMember {α : Type} (key : String) (value : α) : List (String × α) → List (String × α)
  | [] => [(key, value)]
  | (k, v) :: rest =>
    if key < k then (key, value) :: (k, v) :: rest
    else if key = k then (key, value) :: rest
    else (k, v) :: insertMember key value rest

namespace Value

/-- The object of the given members; of two with the same key the later one stays. -/
def ofMembers (members : List (String × Value)) : Value :=
  .object (members.foldl (fun sorted m => insertMember m.1 m.2 sorted) [])

/-- The value of a member, when the value is an object that has it. -/
def member? (key : String) : Value → Option Value
  | .object members => members.lookup key
  | _ => none

/-- The text, when the value is a string. -/
def string? : Value → Option String
  | .string s => some s
  | _ => none

/-- A natural number that fits 64 bits as a value. -/
def ofUInt64 (n : UInt64) : Value :=
  .integer (.ofUInt64 n)

end Value

end FailoverControl.Json
