import FailoverControl.Pattern.Flags

/-!
# Patterns

A pattern describes texts: by characters, sets of characters and edges that follow one another, are
repeated, grouped and given as alternatives. Each atom carries the flags in force where it stands.
-/

set_option autoImplicit false

namespace FailoverControl

namespace Pattern

/-- A character that stands for itself. -/
structure Literal where
  char : Char
  /-- Whether it is written as the number of a byte. -/
  isByte : Bool
deriving DecidableEq, Repr

/-- A set of characters between brackets, or a part of one. -/
inductive CharSet where
  | single (char : Literal)
  | range (first last : Literal)
  /-- An ASCII class that a word between colons names. -/
  | worded (negated : Bool)
  /-- Digits, blanks or the characters of words, which an escaped letter names. -/
  | lettered (negated : Bool)
  | bracketed (negated : Bool) (members : CharSet)
  | together (members : List CharSet)
  /-- What two sets share, or what only one of them holds. -/
  | combined (left right : CharSet)

/-- A part of a pattern that has no parts. -/
inductive Atom where
  | char (literal : Literal)
  /-- Any character. -/
  | dot
  /-- Digits, blanks or the characters of words, which an escaped letter names. -/
  | lettered (negated : Bool)
  /-- The start or the end of a line or of the text. -/
  | edge
  /-- The start or the end of a word, or neither. -/
  | wordEdge
  | oneOf (set : CharSet)

end Pattern

/-- A pattern that describes texts. -/
inductive Pattern where
  | empty
  /-- A change of flags, which describes nothing. -/
  | change
  | atom (flags : Pattern.Flags) (content : Pattern.Atom)
  | repeated (part : Pattern)
  | group (name : Option (List Char)) (content : Pattern)
  | sequence (parts : List Pattern)
  | choice (parts : List Pattern)

namespace Pattern

/-! ## How deep parts lie inside one another -/

mutual

/-- How many brackets, unions and combinations lie inside one another. -/
def CharSet.depth : CharSet → Nat
  | .single _ | .range _ _ | .worded _ | .lettered _ => 0
  | .bracketed _ members => members.depth + 1
  | .together members => if members.isEmpty then 0 else CharSet.depths members + 1
  | .combined left right => max left.depth right.depth + 1

/-- The greatest depth of some sets. -/
def CharSet.depths : List CharSet → Nat
  | [] => 0
  | set :: sets => max set.depth (CharSet.depths sets)

end

/-- How deep the parts of an atom lie inside one another. -/
def Atom.depth : Atom → Nat
  | .oneOf set => set.depth
  | _ => 0

mutual

/-- How deep the parts of a pattern lie inside one another. -/
def depth : Pattern → Nat
  | .empty | .change => 0
  | .atom _ content => content.depth
  | .repeated part => part.depth + 1
  | .group _ content => content.depth + 1
  | .sequence parts => depths parts + 1
  | .choice parts => depths parts + 1

/-- The greatest depth of some patterns. -/
def depths : List Pattern → Nat
  | [] => 0
  | part :: parts => max part.depth (depths parts)

end

/-! ## What a pattern holds -/

mutual

/-- The atoms of a pattern with the flags in force. -/
def atoms : Pattern → List (Flags × Atom)
  | .empty | .change => []
  | .atom flags content => [(flags, content)]
  | .repeated part => part.atoms
  | .group _ content => content.atoms
  | .sequence parts => atomsOfAll parts
  | .choice parts => atomsOfAll parts

/-- The atoms of some patterns. -/
def atomsOfAll : List Pattern → List (Flags × Atom)
  | [] => []
  | part :: parts => part.atoms ++ atomsOfAll parts

end

mutual

/-- The names of the groups of a pattern. -/
def names : Pattern → List (List Char)
  | .empty | .change | .atom _ _ => []
  | .repeated part => part.names
  | .group name content => name.toList ++ content.names
  | .sequence parts => namesOfAll parts
  | .choice parts => namesOfAll parts

/-- The names of the groups of some patterns. -/
def namesOfAll : List Pattern → List (List Char)
  | [] => []
  | part :: parts => part.names ++ namesOfAll parts

end

/-! ## Putting parts together -/

/-- Parts that follow one another, as one pattern. -/
def inOrder : List Pattern → Pattern
  | [] => .empty
  | [part] => part
  | parts => .sequence parts

/-- Alternatives as one pattern. -/
def anyOf : List Pattern → Pattern
  | [] => .empty
  | [part] => part
  | parts => .choice parts

/-- Members of a set as one set. -/
def CharSet.ofMembers : List CharSet → CharSet
  | [member] => member
  | members => .together members

end Pattern

end FailoverControl
