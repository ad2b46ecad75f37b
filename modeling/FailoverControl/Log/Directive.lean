import FailoverControl.Decimal.Numeral
import FailoverControl.Decimal.Unsigned
import FailoverControl.Log.Entry
import FailoverControl.Pattern.Usable
import FailoverControl.Text.Alphanumeric
import FailoverControl.Text.Blank
import FailoverControl.Text.Bytes

/-!
# Directives on what is logged

A directive says how detailed entries may be: those of some parts of the program, or those with
some field. It is written `target[span{field=value}]=level`; each part may be missing, and a
single word is a level if it names one. A condition on spans or on the value of a field keeps a
directive from applying to entries, since entries stand in no span. Such a value is a truth value,
a number, or else a pattern.

The reader looks for the marks between the parts from the first character on that is not blank, but
takes the parts from the whole text at the same distances, so that blanks in front shift them.
-/

set_option autoImplicit false

namespace FailoverControl.Log

/-- What a directive asks of a field. -/
structure FieldCondition where
  name : String
  value : Option String
deriving DecidableEq, Repr

/-- A directive: how detailed entries may be that fulfil its conditions; with zero none are
shown. -/
structure Directive where
  /-- What the target of an entry begins with. -/
  target : Option String
  span : Option String
  field : Option FieldCondition
  detail : Nat
deriving DecidableEq, Repr

/-- Why a text is no directive. -/
inductive DirectiveError where
  | malformed
  | unknownLevel
  | unusableValue (cause : Pattern.PatternError)
deriving DecidableEq, Repr

/-- The wording of a refused directive. -/
def DirectiveError.message : DirectiveError → String
  | .malformed => "invalid filter directive"
  | .unknownLevel =>
    "error parsing level filter: expected one of \"off\", \"error\", \"warn\", \"info\", " ++
      "\"debug\", \"trace\", or a number 0-5"
  | .unusableValue cause => "invalid field filter: " ++ cause.message

/-! ## Levels -/

/-- The most detailed limit. -/
def everything : Nat := 5

/-- The names of the limits and their detail. -/
def limits : List (List Char × Nat) :=
  [(['o', 'f', 'f'], 0), (['e', 'r', 'r', 'o', 'r'], 1), (['w', 'a', 'r', 'n'], 2),
    (['i', 'n', 'f', 'o'], 3), (['d', 'e', 'b', 'u', 'g'], 4), (['t', 'r', 'a', 'c', 'e'], 5)]

/-- The limit that a text gives by its number or by its name in any case. -/
def limit? (text : String) : Option Nat :=
  match Decimal.readUnsigned everything text.toList with
  | .ok n => some n
  | .error _ => limits.lookup (text.toList.map Char.toLower)

/-- The limit that stands at the end of a directive; without one everything is shown. -/
def readLimit (text : String) : Except DirectiveError Nat :=
  if text = "" then .ok everything
  else
    match limit? text with
    | some detail => .ok detail
    | none => .error .unknownLevel

/-! ## Reading -/

/-- A place in a text: the characters from there on, and the bytes before it. -/
structure Place where
  rest : List Char
  offset : Nat

/-- The next mark of some kind: the mark, its offset, and the place behind it. -/
def seek? (isMark : Char → Bool) : List Char → Nat → Option (Char × Nat × Place)
  | [], _ => none
  | c :: rest, offset =>
    if isMark c then some (c, offset, ⟨rest, offset + c.utf8Size⟩)
    else seek? isMark rest (offset + c.utf8Size)

/-- The next mark from a place on. -/
def Place.seek? (place : Place) (isMark : Char → Bool) : Option (Char × Nat × Place) :=
  Log.seek? isMark place.rest place.offset

/-- The part of a text between two offsets. -/
def part (whole : String) (start stop : Nat) : Except DirectiveError String :=
  match Text.ofBytes? (((Text.bytes whole).drop start).take (stop - start)) with
  | some text => .ok text
  | none => .error .malformed

/-- The part of a text from an offset on. -/
def partFrom (whole : String) (start : Nat) : Except DirectiveError String :=
  part whole start whole.utf8ByteSize

namespace Directive

/-- A text without marks: a level, else a target whose entries are all shown. -/
def ofWord (whole : String) : Directive :=
  match limit? whole with
  | some detail => ⟨none, none, none, detail⟩
  | none => ⟨some whole, none, none, everything⟩

/-- Whether a value stands for itself and is no pattern. -/
def isPlainValue (value : List Char) : Bool :=
  value = ['t', 'r', 'u', 'e'] || value = ['f', 'a', 'l', 's', 'e'] || Decimal.isNumeral value

/-- The value of a field that a text writes. -/
def readValue (value : List Char) : Except DirectiveError String :=
  if isPlainValue value then .ok (String.ofList value)
  else
    match Pattern.read value with
    | .ok _ => .ok (String.ofList value)
    | .error cause => .error (.unusableValue cause)

/-- The condition on a field that a text writes. -/
def readField (text : String) : Except DirectiveError FieldCondition :=
  match text.toList.span (· != '=') with
  | ([], []) => .error .malformed
  | (name, []) => .ok ⟨String.ofList name, none⟩
  | (name, _ :: value) => do
    return ⟨String.ofList name, some (← readValue (value.takeWhile (· != '=')))⟩

/-- Reads what follows the bracket that closes the conditions: perhaps a level. -/
def readTail (whole : String) (place : Place) : Except DirectiveError Nat :=
  match place.rest with
  | [] => .ok everything
  | '=' :: _ => do readLimit (← partFrom whole (place.offset + 1))
  | _ => .error .malformed

/-- Reads the conditions in brackets and what follows them. -/
def readConditions (whole : String) (target : Option String) (place : Place) :
    Except DirectiveError Directive :=
  match place.seek? fun c => c = ']' || c = '\x7b' with
  | none => .error .malformed
  | some (mark, stop, behind) => do
    let span ← part whole place.offset stop
    if mark = ']' then
      return ⟨target, some span, none, ← readTail whole behind⟩
    else
      match behind.seek? (· = '\x7d') with
      | none => throw .malformed
      | some (_, stop, behindField) =>
        let field ← readField (← part whole behind.offset stop)
        match behindField.rest with
        | ']' :: rest =>
          let detail ← readTail whole ⟨rest, behindField.offset + 1⟩
          return ⟨target, if span = "" then none else some span, some field, detail⟩
        | _ => throw .malformed

/-- Whether a directive may begin with a character, unless it begins with conditions. -/
def isFirst (c : Char) : Bool :=
  Text.isAlphanumeric c || ['-', ':', '_'].contains c

/-- The directive that a text writes. -/
def read (whole : String) : Except DirectiveError Directive :=
  match Text.trim whole.toList with
  | [] => .error .malformed
  | '[' :: rest => readConditions whole none ⟨rest, 1⟩
  | c :: rest =>
    if !isFirst c then .error .malformed
    else
      match seek? (fun d => d = '=' || d = '[') (c :: rest) 0 with
      | none => .ok (ofWord whole)
      | some (mark, stop, behind) => do
        let target ← part whole 0 stop
        if mark = '=' then
          return ⟨some target, none, none, ← readLimit (← partFrom whole behind.offset)⟩
        else readConditions whole (some target) behind

/-! ## Meaning -/

/-- Whether a directive can apply to entries at all. -/
def concernsEntries (directive : Directive) : Bool :=
  directive.span.isNone && directive.field.all (·.value.isNone)

/-- Whether a directive applies to an entry. -/
def appliesTo (directive : Directive) (entry : Entry) : Bool :=
  directive.concernsEntries &&
    directive.target.all (·.toList.isPrefixOf entry.target.toList) &&
    directive.field.all (entry.fieldNames.contains ·.name)

/-- Whether another directive is more specific: it has a longer target, or a condition on a field
that comes later, where none is the first. -/
def isBelow (a b : Directive) : Bool :=
  let length (directive : Directive) : Nat :=
    match directive.target with
    | none => 0
    | some target => target.utf8ByteSize + 1
  if length a = length b then
    match a.field, b.field with
    | none, some _ => true
    | some x, some y => x.name < y.name
    | _, none => false
  else length a < length b

end Directive

end FailoverControl.Log
