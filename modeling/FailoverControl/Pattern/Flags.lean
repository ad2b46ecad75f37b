/-!
# Flags of patterns

A group in parentheses that opens with a question mark sets flags, each named by a letter, for the
rest of the group around it or for itself; behind a minus sign it clears them.
-/

set_option autoImplicit false

namespace FailoverControl.Pattern

/-- What a letter behind the question mark of a group stands for. -/
inductive Flag where
  /-- Letters stand for both of their cases. -/
  | caseless
  /-- Anchors hold at the ends of lines. -/
  | lineAnchors
  /-- The dot stands for line feeds too. -/
  | anyChar
  /-- Repetitions are as short as possible. -/
  | short
  /-- A character is a code point, and no byte. -/
  | unicode
  /-- Lines may end in a carriage return. -/
  | carriageReturns
  /-- Blanks and comments mean nothing. -/
  | verbose
deriving DecidableEq, Repr

/-- The flag that a letter names. -/
def Flag.ofLetter? : Char → Option Flag
  | 'i' => some .caseless
  | 'm' => some .lineAnchors
  | 's' => some .anyChar
  | 'U' => some .short
  | 'u' => some .unicode
  | 'R' => some .carriageReturns
  | 'x' => some .verbose
  | _ => none

/-- Flags that are set or cleared, each at most once. -/
abbrev FlagChange : Type := List (Flag × Bool)

/-- The flags in force, of those that decide what a pattern may hold. -/
structure Flags where
  caseless : Bool
  unicode : Bool
  verbose : Bool
deriving DecidableEq, Repr

namespace Flags

/-- The flags at the start of a pattern. -/
def start : Flags := ⟨false, true, false⟩

/-- The flags after a change. -/
def change (flags : Flags) (settings : FlagChange) : Flags :=
  ⟨(settings.lookup .caseless).getD flags.caseless, (settings.lookup .unicode).getD flags.unicode,
    (settings.lookup .verbose).getD flags.verbose⟩

end Flags

/-- Reads flags up to the colon or the parenthesis behind them. -/
def readFlags (settings : FlagChange) (clearing dangling : Bool) :
    List Char → Option (FlagChange × Char × List Char)
  | [] => none
  | c :: rest =>
    if c = ':' || c = ')' then if dangling then none else some (settings, c, rest)
    else if c = '-' then if clearing then none else readFlags settings true true rest
    else
      match Flag.ofLetter? c with
      | none => none
      | some flag =>
        if (settings.lookup flag).isSome then none
        else readFlags ((flag, !clearing) :: settings) clearing false rest

end FailoverControl.Pattern
