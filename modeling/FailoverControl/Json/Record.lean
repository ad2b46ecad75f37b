import FailoverControl.Json.Skip
import FailoverControl.Json.Typed

/-!
# Records as JSON texts

A record is written as an object with a member for each field, in any order and among members that
are no fields, or as an array that holds the fields by position. A field given twice and a required
field not given are refused; in the positional form optional fields may be left out at the end.
-/

set_option autoImplicit false

namespace FailoverControl.Json

/-- One field of a record, which is collected in drafts of type `δ`. -/
structure Field (δ : Type) where
  name : String
  /-- Whether the positional form may end before this field. -/
  optional : Bool
  /-- Reads the field's value, with a bound on the arrays and objects inside one another, and
  says how it completes a draft. -/
  read : Nat → Reader (δ → δ)
  /-- Whether a draft already has the field. -/
  given : δ → Bool

/-- A field that a draft keeps in a slot of its own, empty until the field has been read. -/
def Field.ofSlot {δ α : Type} (name : String) (optional : Bool) (reader : Nat → Reader α)
    (slot : δ → Option α) (fill : α → δ → δ) : Field δ where
  name
  optional
  read depth cs := (reader depth cs).map fun (a, cs) => (fill a, cs)
  given draft := (slot draft).isSome

/-- A kind of record: its name, its fields, and the record that a draft amounts to. -/
structure RecordShape (δ ρ : Type) where
  name : String
  fields : List (Field δ)
  empty : δ
  finish : δ → Except DecodeError ρ

namespace RecordShape

variable {δ ρ : Type} (shape : RecordShape δ ρ)

/-- The record in words. -/
def expected : String :=
  "struct " ++ shape.name

/-- The record and the number of its fields in words. -/
def expectedLength : String :=
  shape.expected ++ " with " ++ Decimal.text shape.fields.length ++
    (if shape.fields.length = 1 then " element" else " elements")

/-- The field of a name. -/
def field? (name : String) : Option (Field δ) :=
  shape.fields.find? fun f => f.name = name

/-- One member of the object form, after its key: a field completes the draft, any other member is
passed over. -/
def readMember (depth : Nat) (key : String) (draft : δ) : Reader δ := fun cs => do
  match shape.field? key with
  | none =>
    let cs ← skipColon cs
    let cs ← skipValue cs
    return (draft, cs)
  | some f =>
    if f.given draft then throw (.duplicateField f.name)
    let cs ← skipColon cs
    let (complete, cs) ← f.read depth cs
    return (complete draft, cs)

/-- The members of the object form; `count` bounds their number. -/
def readMembers (depth : Nat) : Nat → Bool → δ → Reader δ
  | 0, _, _, _ => .error .endInObject
  | count + 1, first, draft, cs => do
    match ← nextKey? first cs with
    | none => return (draft, cs)
    | some (key, cs) =>
      let (draft, cs) ← shape.readMember depth key draft cs
      readMembers depth count false draft cs

/-- The fields of the positional form, of which `index` have been read. -/
def readPositions (depth : Nat) : List (Field δ) → (index : Nat) → δ → Reader δ
  | [], _, draft, cs => .ok (draft, cs)
  | f :: fields, index, draft, cs => do
    match ← nextItem? (index == 0) cs with
    | none =>
      if f.optional then readPositions depth fields index draft cs
      else throw (.wrongLength index shape.expectedLength)
    | some cs =>
      let (complete, cs) ← f.read depth cs
      readPositions depth fields (index + 1) (complete draft) cs

/-- A record with at most `depth` arrays and objects inside one another, itself included. -/
def read (depth : Nat) : Reader ρ := fun cs =>
  match skipBlank cs with
  | [] => .error .endInValue
  | '[' :: rest =>
    match depth with
    | 0 => .error .tooDeep
    | depth + 1 => do
      let (draft, cs) ← shape.readPositions depth shape.fields 0 shape.empty rest
      let record ← shape.finish draft
      let cs ← endOfArray cs
      return (record, cs)
  | '\x7b' :: rest =>
    match depth with
    | 0 => .error .tooDeep
    | depth + 1 => do
      let (draft, cs) ← shape.readMembers depth (rest.length + 1) true shape.empty rest
      let record ← shape.finish draft
      let cs ← endOfObject cs
      return (record, cs)
  | cs => refuseValue shape.expected cs

/-- The record that a whole text writes. -/
def parse (text : String) : Except DecodeError ρ :=
  readAll (shape.read maxDepth) text

end RecordShape

end FailoverControl.Json
