import FailoverControl.Pattern.Reader

/-!
# Which patterns can be used

A pattern can be used if it is not nested too deeply, its groups have different names, and its atoms
need no tables of letters: where characters are code points, letters have no other case and digits,
blanks and words are unknown; where they are bytes, only ASCII characters and sets of them can be
told apart, and no set may be negated.
-/

set_option autoImplicit false

namespace FailoverControl.Pattern

/-- Why a text is no pattern that can be used. -/
inductive PatternError where
  | invalid
  /-- The ends of words are asked for where characters are code points. -/
  | wordEdge
deriving DecidableEq, Repr

/-- The wording of a refused pattern. -/
def PatternError.message : PatternError → String
  | .invalid => "error building NFA"
  | .wordEdge =>
    "unsupported regex feature for DFAs: cannot build DFAs for regexes with Unicode word " ++
      "boundaries; switch to ASCII word boundaries, or heuristically enable Unicode word " ++
      "boundaries or use a different regex engine"

/-- Whether a character can stand in a set. -/
def Literal.isMember (flags : Flags) (literal : Literal) : Bool :=
  if flags.unicode then !flags.caseless else literal.char.toNat < 128

/-- Whether a character can stand for itself. -/
def Literal.isAllowed (flags : Flags) (literal : Literal) : Bool :=
  if flags.unicode then !flags.caseless else !literal.isByte || literal.char.toNat < 128

mutual

/-- Whether a set can be used. -/
def CharSet.isAllowed (flags : Flags) : CharSet → Bool
  | .single literal => literal.isMember flags
  | .range first last => first.isMember flags && last.isMember flags
  | .worded negated => if flags.unicode then !flags.caseless else !negated
  | .lettered negated => !flags.unicode && !negated
  | .bracketed negated members => members.isAllowed flags && (flags.unicode || !negated)
  | .together members => CharSet.areAllowed flags members
  | .combined left right => left.isAllowed flags && right.isAllowed flags

/-- Whether some sets can be used. -/
def CharSet.areAllowed (flags : Flags) : List CharSet → Bool
  | [] => true
  | set :: sets => set.isAllowed flags && CharSet.areAllowed flags sets

end

/-- Whether an atom can be used. -/
def Atom.isAllowed (flags : Flags) : Atom → Bool
  | .char literal => literal.isAllowed flags
  | .dot => flags.unicode
  | .lettered negated => !flags.unicode && !negated
  | .edge | .wordEdge => true
  | .oneOf set => set.isAllowed flags

/-- Whether an atom asks for the ends of words where characters are code points. -/
def Atom.needsWords (flags : Flags) : Atom → Bool
  | .wordEdge => flags.unicode
  | _ => false

/-- How deep the parts of a pattern may lie inside one another. -/
def depthLimit : Nat := 250

/-- Whether a pattern can be used but for the ends of words. -/
def isValid (pattern : Pattern) : Bool :=
  pattern.depth ≤ depthLimit && decide pattern.names.Nodup &&
    pattern.atoms.all fun (flags, content) => content.isAllowed flags

/-- Whether a pattern asks for the ends of words where characters are code points. -/
def needsWords (pattern : Pattern) : Bool :=
  pattern.atoms.any fun (flags, content) => content.needsWords flags

/-- The pattern that a text writes, if it can be used. -/
def read (cs : List Char) : Except PatternError Pattern :=
  match ofChars? cs with
  | none => .error .invalid
  | some pattern =>
    if !pattern.isValid then .error .invalid
    else if pattern.needsWords then .error .wordEdge
    else .ok pattern

end FailoverControl.Pattern
