import FailoverControl.Pattern.Tree
import FailoverControl.Text.Blank
import FailoverControl.Text.Letter

/-!
# Reading patterns

A pattern is read from the text of a value in braces, so it ends before the first closing brace and
counts no repetitions: an opening brace stands for itself only behind a backslash, between brackets
or in a comment. The readers take the number of characters as the bound of their steps, since each
step reads at least one.
-/

set_option autoImplicit false

namespace FailoverControl.Pattern

open FailoverControl.Text (isAlphanumeric isBlank isLetter)

/-! ## Blanks and comments -/

/-- Skips blanks, and comments from a number sign to the end of the line. -/
def skipComments (inComment : Bool) : List Char → List Char
  | [] => []
  | c :: rest =>
    if inComment then skipComments (c ≠ '\n') rest
    else if isBlank c then skipComments false rest
    else if c = '#' then skipComments true rest
    else c :: rest

/-- Skips blanks and comments where they mean nothing. -/
def skip (flags : Flags) (cs : List Char) : List Char :=
  if flags.verbose then skipComments false cs else cs

/-- The next character, where blanks mean nothing behind blanks and the sign that opens a
comment. -/
def peek? (flags : Flags) (cs : List Char) : Option Char :=
  if flags.verbose then
    match cs.dropWhile isBlank with
    | '#' :: rest => (rest.dropWhile isBlank).head?
    | rest => rest.head?
  else cs.head?

/-! ## Escapes -/

/-- The value of a hexadecimal digit. -/
def hexValue? (c : Char) : Option Nat :=
  if c.isDigit then some (c.toNat - '0'.toNat)
  else if 'a' ≤ c && c ≤ 'f' then some (c.toNat - 'a'.toNat + 10)
  else if 'A' ≤ c && c ≤ 'F' then some (c.toNat - 'A'.toNat + 10)
  else none

/-- Reads some hexadecimal digits on behind a number. -/
def readHex (flags : Flags) : (count number : Nat) → List Char → Option (Nat × List Char)
  | 0, number, cs => some (number, cs)
  | count + 1, number, cs =>
    match skip flags cs with
    | [] => none
    | c :: rest => do readHex flags count (16 * number + (← hexValue? c)) rest

/-- Reads a character by its number of some hexadecimal digits. -/
def readNumber (flags : Flags) (count : Nat) (cs : List Char) : Option (Literal × List Char) := do
  let (number, rest) ← readHex flags count 0 cs
  if number.isValidChar then some (⟨Char.ofNat number, count = 2⟩, rest) else none

/-- Characters that some letters behind a backslash stand for. -/
def controls : List (Char × Char) :=
  [('a', '\x07'), ('f', '\x0c'), ('t', '\t'), ('n', '\n'), ('r', '\r'), ('v', '\x0b')]

/-- Whether a character stands for itself behind a backslash. -/
def isEscapable (c : Char) : Bool :=
  c.toNat < 128 && !c.isAlphanum && c ≠ '<' && c ≠ '>'

/-- Reads what follows a backslash. -/
def readEscape (flags : Flags) : List Char → Option (Atom × List Char)
  | [] => none
  | c :: rest =>
    let byNumber (count : Nat) : Option (Atom × List Char) :=
      (readNumber flags count rest).map fun (literal, rest) => (.char literal, rest)
    if c = 'x' then byNumber 2
    else if c = 'u' then byNumber 4
    else if c = 'U' then byNumber 8
    else if ['d', 's', 'w'].contains c then some (.lettered false, rest)
    else if ['D', 'S', 'W'].contains c then some (.lettered true, rest)
    else if ['A', 'z'].contains c then some (.edge, rest)
    else if ['b', 'B', '<', '>'].contains c then some (.wordEdge, rest)
    else if isEscapable c then some (.char ⟨c, false⟩, rest)
    else (controls.lookup c).map fun control => (.char ⟨control, false⟩, rest)

/-! ## Sets of characters -/

/-- The ASCII classes. -/
def classNames : List (List Char) :=
  ["alnum", "alpha", "ascii", "blank", "cntrl", "digit", "graph", "lower", "print", "punct",
    "space", "upper", "word", "xdigit"].map String.toList

/-- Reads the name of an ASCII class behind its bracket. -/
def readClass : List Char → Option (CharSet × List Char)
  | ':' :: cs =>
    let (negated, cs) :=
      match cs with
      | '^' :: rest => (true, rest)
      | cs => (false, cs)
    match cs.span (· ≠ ':') with
    | (name, ':' :: ']' :: rest) =>
      if classNames.contains name then some (.worded negated, rest) else none
    | _ => none
  | _ => none

/-- Reads one character or escape of a set. -/
def readItem (flags : Flags) : List Char → Option (Atom × List Char)
  | [] => none
  | '\\' :: rest => readEscape flags rest
  | c :: rest => some (.char ⟨c, false⟩, rest)

/-- An item as a set. -/
def Atom.toSet? : Atom → Option CharSet
  | .char literal => some (.single literal)
  | .lettered negated => some (.lettered negated)
  | _ => none

/-- Two items as the ends of a range. -/
def range? : Atom → Atom → Option CharSet
  | .char first, .char last =>
    if first.char ≤ last.char then some (.range first last) else none
  | _, _ => none

/-- Reads an item, or a range between two. -/
def readMember (flags : Flags) (cs : List Char) : Option (CharSet × List Char) := do
  let (first, rest) ← readItem flags cs
  match skip flags rest with
  | '-' :: behind =>
    let next := peek? flags behind
    if next = some ']' || next = some '-' then return (← first.toSet?, '-' :: behind)
    else
      let (last, rest) ← readItem flags (skip flags behind)
      return (← range? first last, rest)
  | rest => return (← first.toSet?, rest)

/-- Whether two characters combine the sets on both sides. -/
def isCombining (c d : Char) : Bool :=
  c = d && (c = '&' || c = '-' || c = '~')

/-- What has been read of a set. -/
structure SetScan where
  /-- Whether hyphens, and a bracket without any, stand for themselves. -/
  atStart : Bool
  /-- The set in front of the last combination. -/
  left : Option CharSet
  /-- The members behind it, the last one first. -/
  members : List CharSet

namespace SetScan

/-- Nothing has been read. -/
def start : SetScan := ⟨true, none, []⟩

/-- Adds a member. -/
def push (scan : SetScan) (member : CharSet) : SetScan :=
  { scan with atStart := false, members := member :: scan.members }

/-- The set that has been read. -/
def toSet (scan : SetScan) : CharSet :=
  let members := CharSet.ofMembers scan.members.reverse
  match scan.left with
  | none => members
  | some left => .combined left members

end SetScan

/-- Reads the sign behind a bracket that negates a set. -/
def readNegation (flags : Flags) (cs : List Char) : Bool × List Char :=
  match skip flags cs with
  | '^' :: rest => (true, rest)
  | cs => (false, cs)

/-- Reads the members of a set up to its closing bracket. -/
def readMembers (flags : Flags) : (bound : Nat) → SetScan → List Char → Option (CharSet × List Char)
  | 0, _, _ => none
  | bound + 1, scan, cs =>
    match skip flags cs with
    | [] => none
    | c :: rest =>
      if scan.atStart && c = '-' then
        readMembers flags bound { scan.push (.single ⟨c, false⟩) with atStart := true } rest
      else if scan.atStart && scan.members.isEmpty && c = ']' then
        readMembers flags bound (scan.push (.single ⟨c, false⟩)) rest
      else if c = ']' then some (scan.toSet, rest)
      else if c = '[' then
        match readClass rest with
        | some (set, rest) => readMembers flags bound (scan.push set) rest
        | none => do
          let (negated, rest) := readNegation flags rest
          let (set, rest) ← readMembers flags bound .start rest
          readMembers flags bound (scan.push (.bracketed negated set)) rest
      else if rest.head?.any (isCombining c) then
        readMembers flags bound ⟨false, some scan.toSet, []⟩ rest.tail
      else do
        let (member, rest) ← readMember flags (c :: rest)
        readMembers flags bound (scan.push member) rest

/-- Reads a set behind its opening bracket. -/
def readSet (flags : Flags) (cs : List Char) : Option (CharSet × List Char) := do
  let (negated, cs) := readNegation flags cs
  let (members, rest) ← readMembers flags (cs.length + 1) .start cs
  return (.bracketed negated members, rest)

/-! ## Groups -/

/-- What an opening parenthesis opens. -/
inductive Opening where
  /-- A change of flags for the rest of the group around it. -/
  | flags (settings : FlagChange)
  /-- A group, perhaps with flags and a name of its own. -/
  | group (settings : FlagChange) (name : Option (List Char))
deriving DecidableEq, Repr

/-- Whether a text may name a group. -/
def isGroupName : List Char → Bool
  | [] => false
  | c :: rest =>
    (c = '_' || isLetter c) &&
      rest.all fun d => isAlphanumeric d || ['_', '.', '[', ']'].contains d

/-- Reads the name of a group and the bracket behind it. -/
def readGroupName (cs : List Char) : Option (Opening × List Char) :=
  match cs.span (· ≠ '>') with
  | (_, []) => none
  | (name, _ :: rest) => if isGroupName name then some (.group [] (some name), rest) else none

/-- Reads what follows an opening parenthesis. -/
def readOpening (flags : Flags) (cs : List Char) : Option (Opening × List Char) :=
  match skip flags cs with
  | '?' :: 'P' :: '<' :: rest => readGroupName rest
  | '?' :: '<' :: rest => readGroupName rest
  | '?' :: rest =>
    match readFlags [] false false rest with
    | none => none
    | some (settings, stop, rest) =>
      if stop = ':' then some (.group settings none, rest)
      else if settings.isEmpty then none
      else some (.flags settings, rest)
  | rest => some (.group [] none, rest)

/-! ## Patterns -/

/-- What has been read of a group. -/
structure GroupScan where
  /-- The alternatives that are complete, the last one first. -/
  alternatives : List Pattern
  /-- The parts of the alternative that is being read, the last one first. -/
  parts : List Pattern

namespace GroupScan

/-- Nothing has been read. -/
def start : GroupScan := ⟨[], []⟩

/-- Adds a part to the alternative that is being read. -/
def push (scan : GroupScan) (part : Pattern) : GroupScan :=
  { scan with parts := part :: scan.parts }

/-- Begins another alternative. -/
def split (scan : GroupScan) : GroupScan :=
  ⟨inOrder scan.parts.reverse :: scan.alternatives, []⟩

/-- Repeats the last part; a change of flags and nothing cannot be repeated. -/
def repeatLast? (scan : GroupScan) : Option GroupScan :=
  match scan.parts with
  | [] => none
  | .change :: _ => none
  | part :: parts => some { scan with parts := .repeated part :: parts }

/-- The pattern that has been read. -/
def toPattern (scan : GroupScan) : Pattern :=
  anyOf scan.split.alternatives.reverse

end GroupScan

/-- Reads an atom, given its first character. -/
def readAtom (flags : Flags) (c : Char) (rest : List Char) : Option (Atom × List Char) :=
  if c = '\\' then readEscape flags rest
  else if c = '[' then (readSet flags rest).map fun (set, rest) => (.oneOf set, rest)
  else if c = '.' then some (.dot, rest)
  else if c = '^' || c = '$' then some (.edge, rest)
  else some (.char ⟨c, false⟩, rest)

/-- Reads a group up to the parenthesis that closes it or the end of the text. -/
def readGroup : (bound : Nat) → Flags → GroupScan → List Char → Option (Pattern × List Char)
  | 0, _, _, _ => none
  | bound + 1, flags, scan, cs =>
    match skip flags cs with
    | [] => some (scan.toPattern, [])
    | c :: rest =>
      if c = ')' then some (scan.toPattern, c :: rest)
      else if c = '|' then readGroup bound flags scan.split rest
      else if c = '(' then do
        match ← readOpening flags rest with
        | (.flags settings, rest) =>
          readGroup bound (flags.change settings) (scan.push .change) rest
        | (.group settings name, rest) =>
          match ← readGroup bound (flags.change settings) .start rest with
          | (content, _ :: rest) => readGroup bound flags (scan.push (.group name content)) rest
          | (_, []) => none
      else if c = '?' || c = '*' || c = '+' then do
        let scan ← scan.repeatLast?
        readGroup bound flags scan (if rest.head? = some '?' then rest.tail else rest)
      else if c = '\x7b' then none
      else do
        let (content, rest) ← readAtom flags c rest
        readGroup bound flags (scan.push (.atom flags content)) rest

/-- The pattern that a text writes. -/
def ofChars? (cs : List Char) : Option Pattern :=
  match readGroup (cs.length + 1) .start .start cs with
  | some (pattern, []) => some pattern
  | _ => none

end FailoverControl.Pattern
