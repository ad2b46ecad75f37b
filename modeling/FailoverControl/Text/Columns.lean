import FailoverControl.Text.Columns.Follower

/-!
# Columns of a text

How many columns of a terminal a line of text takes. Ideographs and emoji take two, marks and
characters that cannot be seen none, and most others one; characters that are drawn as one share
their columns, and a selector behind a symbol decides which form of it is shown.
-/

set_option autoImplicit false

namespace FailoverControl.Text

/-- The form that a selector asks of the symbol in front of it. -/
inductive Selector where
  | emoji
  | text
  /-- The wide form of a quotation mark. -/
  | wide
deriving DecidableEq, Repr

/-- The selector that a character is. -/
def Selector.ofChar? (c : Char) : Option Selector :=
  if c = '\ufe0f' then some .emoji
  else if c = '\ufe0e' then some .text
  else if c = '\ufe01' then some .wide
  else none

/-- Quotation marks that have a wide form. -/
def curlyQuotes : List Char := ['\u2018', '\u2019', '\u201c', '\u201d']

/-- What stands behind a place: perhaps a selector, and what follows it. -/
structure Behind where
  selector : Option Selector
  follower : Follower
deriving DecidableEq, Repr

namespace Behind

/-- The end of a line. -/
def lineEnd : Behind := ⟨none, .plain⟩

/-- Puts a selector in front. Letters can be joined across it, and so can emoji across the one
that asks for emoji. -/
def select (selector : Selector) (behind : Behind) : Behind where
  selector := some selector
  follower :=
    if behind.follower.isScript || (selector = .emoji && behind.follower.isJoined) then
      behind.follower
    else .plain

/-- Takes a selector away that does not apply to the character in front of it. -/
def deselect (behind : Behind) : Behind where
  selector := none
  follower :=
    if behind.selector = some .emoji && !behind.follower.isScript then .plain
    else behind.follower

/-- The columns of a symbol whose form the selector behind it decides. -/
def selected? (c : Char) (behind : Behind) : Option (Int × Behind) :=
  match behind.selector with
  | some .emoji =>
    if isSelectable c then some (if behind.follower.isJoined then 0 else 2, ⟨none, .emoji⟩)
    else none
  | some .text => if isNarrowAsText c then some (1, lineEnd) else none
  | some .wide => if curlyQuotes.contains c then some (2, lineEnd) else none
  | none => none

/-- Puts a character in front: the columns that it adds, and what stands behind the place before
it. -/
def cons (c : Char) (behind : Behind) : Int × Behind :=
  match behind.selected? c with
  | some result => result
  | none =>
    if c.toNat ≤ 0xa0 then (1, lineEnd)
    else
      match Selector.ofChar? c with
      | some selector => (0, behind.select selector)
      | none =>
        let (added, follower) := behind.deselect.follower.cons c
        (added, ⟨none, follower⟩)

end Behind

/-- The columns of a line, and what its first characters may be joined with. -/
def measure : List Char → Int × Behind
  | [] => (0, .lineEnd)
  | c :: cs =>
    let (sum, behind) := measure cs
    let (added, behind) := behind.cons c
    (sum + added, behind)

/-- The columns of a line of text. -/
def columns (s : String) : Nat :=
  (measure s.toList).1.toNat

end FailoverControl.Text
