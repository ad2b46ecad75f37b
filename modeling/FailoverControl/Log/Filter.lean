import FailoverControl.Log.Directive

/-!
# Which entries are shown

A filter is a list of directives. Of those that apply to an entry the most specific one counts, the
later one of equals; entries to which none applies are not shown.
-/

set_option autoImplicit false

namespace FailoverControl.Log

/-- The directives in the order in which they were given. -/
structure Filter where
  directives : List Directive
deriving DecidableEq, Repr

namespace Filter

/-- The same limit for everything. -/
def uniform (detail : Nat) : Filter := ⟨[⟨none, none, none, detail⟩]⟩

/-- The more specific one of two directives, the later one of equals. -/
def moreSpecific (a b : Directive) : Directive :=
  if b.isBelow a then a else b

/-- The directive that counts for an entry. -/
def directive? (filter : Filter) (entry : Entry) : Option Directive :=
  match filter.directives.filter (·.appliesTo entry) with
  | [] => none
  | first :: rest => some (rest.foldl moreSpecific first)

/-- Whether an entry is shown. -/
def admits (filter : Filter) (entry : Entry) : Bool :=
  (filter.directive? entry).any (entry.level.detail ≤ ·.detail)

end Filter

/-! ## Reading -/

/-- The parts of a text between commas, without the empty ones. -/
def commaParts (cs : List Char) : List (List Char) :=
  let split : Char → List (List Char) → List (List Char) := fun c parts =>
    if c = ',' then [] :: parts
    else
      match parts with
      | [] => [[c]]
      | part :: rest => (c :: part) :: rest
  (cs.foldr split [[]]).filter (!·.isEmpty)

/-- A part of a text that is no directive, and why. -/
structure IgnoredPart where
  text : String
  reason : DirectiveError
deriving DecidableEq, Repr

/-- What is said about a part that is no directive. -/
def IgnoredPart.notice (ignored : IgnoredPart) : String :=
  "ignoring \x60" ++ ignored.text ++ "\x60: " ++ ignored.reason.message ++ "\n"

/-- What a part of a text comes to as a directive. -/
def readPart (text : String) : Except IgnoredPart Directive :=
  (Directive.read text).mapError fun reason => ⟨text, reason⟩

/-- The filter that a text writes, and the parts of the text that are no directives. A text without
directives stands for the limit `detail`. -/
def Filter.read (text : String) (detail : Nat) : Filter × List IgnoredPart :=
  let results := (commaParts text.toList).map fun part => readPart (String.ofList part)
  let directives := results.filterMap Except.toOption
  let ignored := results.filterMap fun
    | .ok _ => none
    | .error part => some part
  (if directives.isEmpty then .uniform detail else ⟨directives⟩, ignored)

end FailoverControl.Log
