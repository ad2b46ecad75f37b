import FailoverControl.Text.Columns.Emoji
import FailoverControl.Text.Columns.Wide
import FailoverControl.Text.Columns.Zero

/-!
# Characters that are drawn as one

A text is measured from its end. Of the characters behind a place only this is kept: what they can
join with the next character into. Ligatures of several scripts, flags, and emoji that are
joined, toned or tagged take fewer columns than their characters.
-/

set_option autoImplicit false

namespace FailoverControl.Text

/-- What stands behind a place and may be drawn as one with the character in front of it. -/
inductive Follower where
  | plain
  /-- An Arabic alef, perhaps behind marks. -/
  | alef
  /-- A Hebrew lamed, and whether a joiner stands in front of it. -/
  | lamed (joined : Bool)
  /-- A Buginese ya, and whether a joiner stands in front of it. -/
  | ya (joined : Bool)
  | vowelAndYa
  /-- A Tifinagh consonant, and whether a joiner stands in front of it. -/
  | consonant (joined : Bool)
  | joinerAndConsonant
  /-- One of the Lisu tones that may stand behind another one. -/
  | tone
  /-- An Old Turkic i, and whether a joiner stands in front of it. -/
  | orkhonI (joined : Bool)
  /-- A Khmer letter that may stand below another one. -/
  | subscript
  /-- The vowels of Kirat Rai that others are made of. -/
  | vowelE
  | vowelAi
  | skinTone
  | flagLetter
  | flagLetters
  | emoji
  | joinedEmoji
  | joinedKeycap
  | joinedFlagLetter
  | joinedFlag
  | joinedFlagAndLetter
  /-- The end of the tags that name a flag: some digits in front of some letters. -/
  | tags (letters digits : Nat)
deriving DecidableEq, Repr

/-- The character that joins its neighbours. -/
def joiner : Char := '\u200d'

/-- Whether a code point lies between two others. -/
def liesIn (c : Char) (low high : Nat) : Bool :=
  low ≤ c.toNat && c.toNat ≤ high

/-- Arabic letters that join with an alef behind them. -/
def lamRanges : Ranges :=
  [(0x644, 0x644), (0x6b5, 0x6b8), (0x76a, 0x76a), (0x8a6, 0x8a6), (0x8c7, 0x8c7)]

/-- Arabic letters of the shape of an alef. -/
def alefRanges : Ranges :=
  [(0x622, 0x623), (0x625, 0x625), (0x627, 0x627), (0x671, 0x673), (0x675, 0x675), (0x773, 0x774),
    (0x870, 0x882)]

/-- Khmer letters that may stand below another one. -/
def subscriptRanges : Ranges :=
  [(0x1780, 0x1782), (0x1784, 0x1787), (0x1789, 0x178c), (0x178e, 0x1793), (0x1795, 0x1798),
    (0x179b, 0x179d), (0x17a0, 0x17a0), (0x17a2, 0x17a2), (0x17a7, 0x17a7), (0x17ab, 0x17ac),
    (0x17af, 0x17af)]

/-- Consonants of Tifinagh. -/
def consonantRanges : Ranges :=
  [(0x2d31, 0x2d65), (0x2d6f, 0x2d6f)]

/-- Invisible characters that ligatures disregard. -/
def disregardedRanges : Ranges :=
  [(0x34f, 0x34f), (0x17b4, 0x17b5), (0x180b, 0x180d), (0x180f, 0x180f), (0xfe00, 0xfe0f),
    (0xe0100, 0xe01ef)]

/-- The columns of a character on its own. -/
def columnsOfChar (c : Char) : Nat :=
  if c.toNat ≤ 0xa0 then 1
  else if c.toNat = 0x17d8 then 3
  else if isZeroColumn c then 0
  else if isWide c then 2
  else 1

namespace Follower

/-- What a character is for the one in front of it. -/
def ofChar (c : Char) : Follower :=
  if c.toNat ≤ 0xa0 then .plain
  else if inRanges alefRanges c then .alef
  else if c = '\u05dc' then .lamed false
  else if c = '\u1a10' then .ya false
  else if inRanges consonantRanges c then .consonant false
  else if liesIn c 0xa4fc 0xa4fd then .tone
  else if liesIn c 0x10c03 0x10c03 then .orkhonI false
  else if inRanges subscriptRanges c then .subscript
  else if liesIn c 0x16d67 0x16d67 then .vowelE
  else if liesIn c 0x16d68 0x16d68 then .vowelAi
  else if isSkinTone c then .skinTone
  else if isFlagLetter c then .flagLetter
  else if isEmoji c then .emoji
  else .plain

/-- Whether letters of a script stand behind the place, which a selector does not part from those
in front of it. -/
def isScript : Follower → Bool
  | .alef | .lamed _ | .ya _ | .vowelAndYa | .consonant _ | .joinerAndConsonant | .tone
  | .orkhonI _ | .subscript => true
  | _ => false

/-- Whether an emoji with a joiner in front of it stands behind the place. -/
def isJoined : Follower → Bool
  | .joinedEmoji | .joinedKeycap => true
  | _ => false

/-- Puts a joiner in front. -/
def joined : Follower → Follower
  | .lamed _ => .lamed true
  | .ya _ => .ya true
  | .consonant _ => .consonant true
  | .orkhonI _ => .orkhonI true
  | follower => follower

/-- Puts an invisible character in front of letters that disregard it. -/
def disregard? (follower : Follower) (c : Char) : Option Follower :=
  if follower.isScript && follower ≠ .alef then
    if c = joiner then some follower.joined
    else if inRanges disregardedRanges c then some follower
    else none
  else none

/-- Puts a character in front that becomes a ligature with the letters behind it: the columns that
it adds, and what stands behind the place before it. -/
def ligature? (follower : Follower) (c : Char) : Option (Int × Follower) :=
  match follower with
  | .alef =>
    if inRanges lamRanges c then some (0, .plain)
    else if isTransparent c then some (0, .alef)
    else none
  | .lamed true => if c = '\u05d0' then some (0, .plain) else none
  | .ya true => if c = '\u1a17' then some (0, .vowelAndYa) else none
  | .vowelAndYa => if c = '\u1a15' then some (0, .plain) else none
  | .consonant joined =>
    if c = '\u2d7f' then some (1, .joinerAndConsonant)
    else if joined && inRanges consonantRanges c then some (0, .plain)
    else none
  | .joinerAndConsonant => if inRanges consonantRanges c then some (-1, .plain) else none
  | .tone => if liesIn c 0xa4f8 0xa4fb then some (0, .plain) else none
  | .orkhonI true => if liesIn c 0x10c32 0x10c32 then some (0, .plain) else none
  | .subscript => if c = '\u17d2' then some (-1, .plain) else none
  | .vowelE =>
    if liesIn c 0x16d63 0x16d63 || liesIn c 0x16d69 0x16d69 then some (0, .plain)
    else if liesIn c 0x16d67 0x16d67 then some (0, .vowelAi)
    else if liesIn c 0x16d68 0x16d68 then some (1, .vowelE)
    else none
  | .vowelAi => if liesIn c 0x16d63 0x16d63 then some (0, .plain) else none
  | _ => none

/-- Puts a character in front of tags: another tag, or the flag that they are about, which up to
four letters and three digits or three to six letters name. -/
def tagged? (letters digits : Nat) (c : Char) : Option (Int × Follower) :=
  if liesIn c 0xe0061 0xe007a && digits = 0 && letters < 6 then some (0, .tags (letters + 1) 0)
  else if liesIn c 0xe0030 0xe0039 && digits < 3 && (digits ≠ 0 || letters ≤ 4) then
    some (0, .tags letters (digits + 1))
  else if liesIn c 0x1f3f4 0x1f3f4 && (digits = 3 || (digits = 0 && 3 ≤ letters)) then
    some (0, .emoji)
  else none

/-- Puts a character in front that is drawn as one with the emoji behind it: the columns that it
adds, and what stands behind the place before it. -/
def emojiJoin? (follower : Follower) (c : Char) : Option (Int × Follower) :=
  let join? : Option (Int × Follower) := if c = joiner then some (0, .joinedEmoji) else none
  match follower with
  | .skinTone => if isToned c then some (0, .emoji) else join?
  | .flagLetter => if isFlagLetter c then some (1, .flagLetters) else none
  | .flagLetters => if isFlagLetter c then some (1, .flagLetters) else join?
  | .emoji => join?
  | .joinedEmoji =>
    if c = '\u20e3' then some (0, .joinedKeycap)
    else if isFlagLetter c then some (1, .joinedFlagLetter)
    else if isSkinTone c then some (0, .skinTone)
    else if liesIn c 0xe007f 0xe007f then some (0, .tags 0 0)
    else if isEmoji c then some (0, .emoji)
    else none
  | .joinedFlagLetter => if isFlagLetter c then some (-1, .joinedFlag) else none
  | .joinedFlag => if isFlagLetter c then some (3, .joinedFlagAndLetter) else join?
  | .joinedFlagAndLetter => if isFlagLetter c then some (-1, .joinedFlag) else join?
  | .tags letters digits => tagged? letters digits c
  | _ => none

/-- Puts any character in front: the columns that it adds, and what stands behind the place before
it. -/
def cons (c : Char) (follower : Follower) : Int × Follower :=
  match follower.disregard? c with
  | some follower => (0, follower)
  | none =>
    match follower.ligature? c <|> follower.emojiJoin? c with
    | some result => result
    | none => (columnsOfChar c, ofChar c)

end Follower

end FailoverControl.Text
