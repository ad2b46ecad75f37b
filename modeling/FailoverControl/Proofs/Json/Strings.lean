import FailoverControl.Json.Token
import Mathlib.Tactic.Common

/-!
# What strings hold

The characters between the quotes of a string, as relations: which of them make a string at all, and
which characters they spell. A string that is passed over may leave half a surrogate pair alone, and
such a string spells nothing.

The main statements: a text is passed over up to the closing quote of a string or is refused
(`stringSkipped`), and it is read in the same way, up to the closing quote of a string that spells
what has been read (`stringRead`). Refusals tell nothing of what the text holds.
-/

set_option autoImplicit false

namespace FailoverControl.Json

/-! ## Between the quotes -/

/-- The characters between the quotes of a string. -/
inductive StringBody : List Char → Prop
  | nil : StringBody []
  | plain {c : Char} {body : List Char} (hprintable : 0x20 ≤ c.toNat) (hquote : c ≠ '"')
      (hescape : c ≠ '\\') (h : StringBody body) : StringBody (c :: body)
  | letter {c e : Char} {body : List Char} (hletter : letterEscape? c = some e)
      (h : StringBody body) : StringBody ('\\' :: c :: body)
  | unit {a b c d : Char} {n : Nat} {body : List Char} (hunit : hexQuad? a b c d = some n)
      (h : StringBody body) : StringBody ('\\' :: 'u' :: a :: b :: c :: d :: body)

/-- The characters between the quotes of a string spell some characters; no half of a surrogate
pair stands alone. -/
inductive Spells : List Char → List Char → Prop
  | nil : Spells [] []
  | plain {c : Char} {body s : List Char} (hprintable : 0x20 ≤ c.toNat) (hquote : c ≠ '"')
      (hescape : c ≠ '\\') (h : Spells body s) : Spells (c :: body) (c :: s)
  | letter {c e : Char} {body s : List Char} (hletter : letterEscape? c = some e)
      (h : Spells body s) : Spells ('\\' :: c :: body) (e :: s)
  | unit {a b c d : Char} {n : Nat} {body s : List Char} (hunit : hexQuad? a b c d = some n)
      (hlow : isLowSurrogate n = false) (hhigh : isHighSurrogate n = false)
      (h : Spells body s) : Spells ('\\' :: 'u' :: a :: b :: c :: d :: body) (Char.ofNat n :: s)
  | pair {a b c d e f g k : Char} {n m : Nat} {body s : List Char}
      (hhigh : hexQuad? a b c d = some n) (hhighUnit : isHighSurrogate n = true)
      (hlow : hexQuad? e f g k = some m) (hlowUnit : isLowSurrogate m = true)
      (h : Spells body s) :
      Spells ('\\' :: 'u' :: a :: b :: c :: d :: '\\' :: 'u' :: e :: f :: g :: k :: body)
        (Char.ofNat (pairedSurrogates n m) :: s)

/-- What spells something makes a string. -/
theorem Spells.stringBody {body s : List Char} (h : Spells body s) : StringBody body := by
  induction h with
  | nil => exact .nil
  | plain hprintable hquote hescape _ ih => exact .plain hprintable hquote hescape ih
  | letter hletter _ ih => exact .letter hletter ih
  | unit hunit _ _ _ ih => exact .unit hunit ih
  | pair hhigh _ hlow _ _ ih => exact .unit hhigh (.unit hlow ih)

/-- Whether a character may stand between the quotes of a string as it is. -/
def isPlain (c : Char) : Bool :=
  0x20 ≤ c.toNat && c != '"' && c != '\\'

/-- Characters that need no escape spell themselves. -/
theorem spells_plain {cs : List Char} (h : cs.all isPlain = true) : Spells cs cs := by
  induction cs with
  | nil => exact .nil
  | cons c cs ih =>
    simp only [List.all_cons, isPlain, Bool.and_eq_true, decide_eq_true_eq, bne_iff_ne] at h
    obtain ⟨⟨⟨hprintable, hquote⟩, hescape⟩, hcs⟩ := h
    exact .plain hprintable hquote hescape (ih hcs)

/-! ## From the relations to the readers -/

/-- The letter of escapes by number is no escape by letter. -/
theorem letterEscape?_ne {c e : Char} (h : letterEscape? c = some e) : c ≠ 'u' := by
  rintro rfl
  cases h

/-- No code unit is both halves of a surrogate pair. -/
theorem isLowSurrogate_of_high {n : Nat} (h : isHighSurrogate n = true) :
    isLowSurrogate n = false := by
  simp only [isHighSurrogate, isLowSurrogate, Bool.and_eq_true, decide_eq_true_eq,
    Bool.and_eq_false_iff, decide_eq_false_iff_not] at h ⊢
  omega

/-- A string is passed over up to its closing quote. -/
theorem skipStringBody_of_stringBody {body : List Char} (h : StringBody body) (rest : List Char) :
    skipStringBody (body ++ '"' :: rest) = .ok rest := by
  induction h with
  | nil => simp [skipStringBody]
  | plain hprintable hquote hescape h ih =>
    simp [skipStringBody, hescape, Nat.not_lt.mpr hprintable, ih]
  | letter hletter h ih => simp [skipStringBody, letterEscape?_ne hletter, hletter, ih]
  | unit hunit h ih => simp [skipStringBody, hunit, ih]

/-- A string is read as what it spells, up to its closing quote. -/
theorem readStringBody_of_spells {body s : List Char} (h : Spells body s) (rest : List Char) :
    readStringBody (body ++ '"' :: rest) = .ok (s, rest) := by
  induction h with
  | nil => simp [readStringBody]
  | plain hprintable hquote hescape h ih =>
    simp [readStringBody, hescape, Nat.not_lt.mpr hprintable, ih, consChar, Except.map]
  | letter hletter h ih =>
    simp [readStringBody, letterEscape?_ne hletter, hletter, ih, consChar, Except.map]
  | unit hunit hlow hhigh h ih =>
    simp [readStringBody, hunit, hlow, hhigh, ih, consChar, Except.map]
  | pair hhigh hhighUnit hlow hlowUnit h ih =>
    simp [readStringBody, hhigh, hhighUnit, isLowSurrogate_of_high hhighUnit, hlow, hlowUnit, ih,
      consChar, Except.map]

/-! ## From the readers to the relations -/

/-- The reasons to refuse a string. -/
def stringRefusals : List DecodeError :=
  [.endInString, .invalidEscape, .controlCharacter, .unpairedSurrogate, .unfinishedSurrogatePair]

/-- An escape by number that is cut short is one of the reasons to refuse a string. -/
theorem shortEscape_mem (cs : List Char) : shortEscape cs ∈ stringRefusals := by
  unfold shortEscape
  split <;> decide

/-- What passing over a string comes to. -/
inductive StringSkipped (cs : List Char) : Except DecodeError (List Char) → Prop
  | closed {body rest : List Char} (hcs : cs = body ++ '"' :: rest) (hbody : StringBody body) :
      StringSkipped cs (.ok rest)
  | refused {e : DecodeError} (hrefusal : e ∈ stringRefusals) : StringSkipped cs (.error e)

/-- What reading a string comes to. -/
inductive StringRead (cs : List Char) : Except DecodeError (List Char × List Char) → Prop
  | closed {body s rest : List Char} (hcs : cs = body ++ '"' :: rest) (hspells : Spells body s) :
      StringRead cs (.ok (s, rest))
  | refused {e : DecodeError} (hrefusal : e ∈ stringRefusals) : StringRead cs (.error e)

variable {cs : List Char}

/-- A character, or what is written for one, in front of a text that is passed over. -/
theorem StringSkipped.behind {skipped : Except DecodeError (List Char)}
    (h : StringSkipped cs skipped) (front : List Char)
    (hfront : ∀ body, StringBody body → StringBody (front ++ body)) :
    StringSkipped (front ++ cs) skipped := by
  cases h with
  | @closed body rest hcs hbody =>
    exact .closed (hcs ▸ (List.append_assoc front body ('"' :: rest)).symm) (hfront body hbody)
  | refused hrefusal => exact .refused hrefusal

/-- A character, or what is written for one, in front of a text that is read. -/
theorem StringRead.behind {read : Except DecodeError (List Char × List Char)} {c : Char}
    (h : StringRead cs read) (front : List Char)
    (hfront : ∀ body s, Spells body s → Spells (front ++ body) (c :: s)) :
    StringRead (front ++ cs) (consChar c read) := by
  cases h with
  | @closed body s rest hcs hspells =>
    exact .closed (hcs ▸ (List.append_assoc front body ('"' :: rest)).symm)
      (hfront body s hspells)
  | refused hrefusal => exact .refused hrefusal

/-- A backslash is never the last character and always opens an escape, so what does neither is
none. -/
theorem ne_backslash_of_no_escape {c : Char} {rest : List Char} (hend : c = '\\' → rest ≠ [])
    (hescape : ∀ d behind, c = '\\' → rest ≠ d :: behind) : c ≠ '\\' := by
  intro hc
  cases rest with
  | nil => exact hend hc rfl
  | cons d behind => exact hescape d behind hc rfl

/-- A text is passed over up to the closing quote of a string, or is refused. -/
theorem stringSkipped (cs : List Char) : StringSkipped cs (skipStringBody cs) := by
  fun_induction skipStringBody cs with
  | case2 rest => exact .closed (List.nil_append _).symm .nil
  -- An escape by number.
  | case5 a b c d rest n hunit ih =>
    exact ih.behind ['\\', 'u', a, b, c, d] fun _ hbody => .unit hunit hbody
  | case6 rest hquad => exact .refused (shortEscape_mem rest)
  -- An escape by letter.
  | case7 c rest hquad hunit e hletter ih =>
    exact ih.behind ['\\', c] fun _ hbody => .letter hletter hbody
  -- A character that stands for itself.
  | case10 c rest hquote hend hquad hunit hescape hcontrol ih =>
    have hbackslash : c ≠ '\\' := ne_backslash_of_no_escape hend hescape
    exact ih.behind [c] fun _ hbody =>
      .plain (Nat.le_of_not_lt hcontrol) hquote hbackslash hbody
  | _ => exact .refused (by decide)

/-- A text is read up to the closing quote of a string that spells what has been read, or is
refused. -/
theorem stringRead (cs : List Char) : StringRead cs (readStringBody cs) := by
  fun_induction readStringBody cs with
  | case2 rest => exact .closed (List.nil_append _).symm .nil
  -- The two halves of a surrogate pair.
  | case9 a b c d n hhigh hlow hhighUnit e f g k rest m hm hlowUnit ih =>
    exact ih.behind ['\\', 'u', a, b, c, d, '\\', 'u', e, f, g, k] fun _ _ hspells =>
      .pair hhigh hhighUnit hm hlowUnit hspells
  | case11 rest hquad => exact .refused (shortEscape_mem _)
  -- An escape by number.
  | case13 a b c d rest n hunit hlow hhigh ih =>
    exact ih.behind ['\\', 'u', a, b, c, d] fun _ _ hspells =>
      .unit hunit (Bool.eq_false_iff.mpr hlow) (Bool.eq_false_iff.mpr hhigh) hspells
  | case14 rest hquad => exact .refused (shortEscape_mem rest)
  -- An escape by letter.
  | case15 c rest hquad hunit e hletter ih =>
    exact ih.behind ['\\', c] fun _ _ hspells => .letter hletter hspells
  -- A character that stands for itself.
  | case18 c rest hquote hend hquad hunit hescape hcontrol ih =>
    have hbackslash : c ≠ '\\' := ne_backslash_of_no_escape hend hescape
    exact ih.behind [c] fun _ _ hspells =>
      .plain (Nat.le_of_not_lt hcontrol) hquote hbackslash hspells
  | _ => exact .refused (by decide)

/-- Whatever is passed over as a string is one. -/
theorem exists_stringBody_of_skip {rest : List Char} (h : skipStringBody cs = .ok rest) :
    ∃ body, cs = body ++ '"' :: rest ∧ StringBody body := by
  have hskipped := stringSkipped cs
  rw [h] at hskipped
  cases hskipped with
  | closed hcs hbody => exact ⟨_, hcs, hbody⟩

/-- Whatever is read as a string spells it. -/
theorem exists_spells_of_read {s rest : List Char} (h : readStringBody cs = .ok (s, rest)) :
    ∃ body, cs = body ++ '"' :: rest ∧ Spells body s := by
  have hread := stringRead cs
  rw [h] at hread
  cases hread with
  | closed hcs hspells => exact ⟨_, hcs, hspells⟩

end FailoverControl.Json
