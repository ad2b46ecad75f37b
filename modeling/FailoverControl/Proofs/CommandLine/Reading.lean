import FailoverControl.CommandLine.Parser
import Mathlib.Data.List.TakeDrop
import Mathlib.Data.List.TakeWhile
import Mathlib.Tactic.Common

/-!
# How a command line is read

What each step of the reading does when it succeeds, and which step a word takes. Every argument
that begins first checks the value that has been kept back; a word is an option behind one hyphen or
two, else a value or the command.

The main statements: the inversions of the steps (`settle_eq_ok_iff`, `turnOn_eq_ok_iff`,
`readPlain_eq_ok_iff`, `readLong_eq_ok_iff`) and the kinds of words (`wordKind_of_ne`).
-/

set_option autoImplicit false

namespace FailoverControl.CommandLine

/-! ## Values and switches -/

namespace Draft

variable {draft d : Draft}

/-- Takes a value that has been kept back. -/
def take (draft : Draft) : Pending → Except Ending Draft
  | .command name => draft.giveCommand name
  | .setting setting value => draft.give setting value

/-- A command is taken by its name. -/
theorem take_command_eq_ok_iff {name : String} :
    draft.take (.command name) = .ok d ↔
      ∃ command, Control.Command.ofName? name = some command ∧
        d = { draft with
          command := some command, given := { draft.given with command := true } } := by
  cases hname : Control.Command.ofName? name <;> simp [take, giveCommand, hname, eq_comm]

/-- A draft holds what another one holds, and a text as the value of a setting. -/
def Stores (draft : Draft) (text : String) (d : Draft) : Setting → Prop
  | .uri => d = { draft with uri := some text }
  | .peerTimeout =>
    ∃ n, readSeconds .peerTimeout text = .ok n ∧ d = { draft with peerTimeout := some n }
  | .peerConnectTimeout =>
    ∃ n, readSeconds .peerConnectTimeout text = .ok n ∧
      d = { draft with peerConnectTimeout := some n }

/-- A setting is taken that has a value and has not been given before. -/
theorem take_setting_eq_ok_iff {setting : Setting} {value : Option String} :
    draft.take (.setting setting value) = .ok d ↔
      ∃ text, value = some text ∧ draft.has setting = false ∧
        (draft.use (.setting setting)).Stores text d setting := by
  cases value with
  | none => simp [take, give, throw, throwThe, MonadExceptOf.throw]
  | some text =>
    cases hgiven : draft.has setting with
    | true => simp [take, give, hgiven, throw, throwThe, MonadExceptOf.throw, bind, Except.bind]
    | false =>
      cases setting with
      | uri => simp [take, give, hgiven, Stores, pure, Except.pure, eq_comm]
      | peerTimeout =>
        cases hseconds : readSeconds .peerTimeout text <;>
          simp [take, give, hgiven, hseconds, Stores, bind, Except.bind, pure, Except.pure, eq_comm]
      | peerConnectTimeout =>
        cases hseconds : readSeconds .peerConnectTimeout text <;>
          simp [take, give, hgiven, hseconds, Stores, bind, Except.bind, pure, Except.pure, eq_comm]

/-- The switch can be turned on once. -/
theorem turnOn_yes_eq_ok_iff {byLetter : Bool} :
    draft.turnOn .yes byLetter = .ok d ↔
      draft.yes = false ∧ d = { draft.use (.switch .yes) with yes := true } := by
  cases hyes : draft.yes <;> simp [turnOn, hyes, eq_comm]

end Draft

/-! ## Steps -/

namespace Progress

variable {p p' : Progress}

/-- A value that has been kept back is taken when it is checked. -/
theorem settle_eq_ok_iff :
    p.settle = .ok p' ↔ (p.pending = none ∧ p' = p) ∨
      ∃ pending d, p.pending = some pending ∧ p.draft.take pending = .ok d ∧
        p' = { p with draft := d, pending := none } := by
  unfold settle
  cases hpending : p.pending with
  | none =>
    refine ⟨fun h => .inl ⟨rfl, (Except.ok.inj h).symm⟩, ?_⟩
    rintro (⟨-, rfl⟩ | ⟨_, _, h, -⟩)
    · rfl
    · cases h
  | some pending =>
    cases pending with
    | command name =>
      cases htake : p.draft.giveCommand name <;>
        simp [Draft.take, htake, bind, Except.bind, pure, Except.pure, eq_comm]
    | setting setting value =>
      cases htake : p.draft.give setting value <;>
        simp [Draft.take, htake, bind, Except.bind, pure, Except.pure, eq_comm]

/-- A switch is turned on behind the check of what has been kept back. -/
theorem turnOn_eq_ok_iff {switch : Switch} {byLetter : Bool} :
    p.turnOn switch byLetter = .ok p' ↔
      ∃ p₁ d, p.settle = .ok p₁ ∧ p₁.draft.turnOn switch byLetter = .ok d ∧
        p' = { p₁ with draft := d } := by
  unfold turnOn
  cases hsettle : p.settle with
  | error e => simp [bind, Except.bind]
  | ok p₁ =>
    cases hdraft : p₁.draft.turnOn switch byLetter <;>
      simp [hdraft, bind, Except.bind, pure, Except.pure, eq_comm]

/-- A plain word is the value of the setting that waits for one, else the command. -/
theorem readPlain_eq_ok_iff {text : String} :
    p.readPlain text = .ok p' ↔
      (∃ setting, p.pending = some (.setting setting none) ∧ p.onlyCommands = false ∧
        p' = { p with pending := some (.setting setting (some text)) }) ∨
      (p.commandMet = false ∧ ∃ p₁, p.settle = .ok p₁ ∧
        p' = { p₁ with pending := some (.command text), commandMet := true }) := by
  by_cases hwaits : ∃ setting, p.pending = some (.setting setting none) ∧ p.onlyCommands = false
  · obtain ⟨setting, hpending, honly⟩ := hwaits
    have hsettle (p₁ : Progress) : p.settle ≠ .ok p₁ := by
      rw [Ne, settle_eq_ok_iff, hpending]
      rintro (⟨h, -⟩ | ⟨_, _, h, htake, -⟩)
      · cases h
      · cases h
        cases htake
    have hread : p.readPlain text =
        .ok { p with pending := some (.setting setting (some text)) } := by
      simp only [readPlain, hpending, honly]
    rw [hread, Except.ok.injEq, hpending]
    constructor
    · rintro rfl
      exact .inl ⟨setting, rfl, honly, rfl⟩
    · rintro (⟨_, h, -, rfl⟩ | ⟨-, p₁, h, -⟩)
      · cases h
        rfl
      · exact absurd h (hsettle p₁)
  · have hread : p.readPlain text =
        if p.commandMet then refuse text false .nothing
        else do
          let progress ← p.settle
          return { progress with pending := some (.command text), commandMet := true } := by
      unfold readPlain
      split
      · rename_i setting hpending honly
        exact absurd ⟨setting, hpending, honly⟩ hwaits
      · rfl
    have hnone : ¬ ∃ setting, p.pending = some (.setting setting none) ∧ p.onlyCommands = false ∧
        p' = { p with pending := some (.setting setting (some text)) } :=
      fun ⟨setting, hpending, honly, _⟩ => hwaits ⟨setting, hpending, honly⟩
    rw [hread, or_iff_right hnone]
    cases p.commandMet with
    | true => simp [refuse]
    | false =>
      cases p.settle <;> simp [bind, Except.bind, pure, Except.pure, eq_comm]

/-- What is read after a setting that waits for its value or comes with it. -/
theorem readLong_eq_ok_iff {name : String} {value : Option String} :
    p.readLong name value = .ok p' ↔
      (∃ switch, Switch.ofLong? name = some switch ∧ value = none ∧
        p.turnOn switch false = .ok p') ∨
      (∃ setting p₁, Switch.ofLong? name = none ∧ Setting.ofLong? name = some setting ∧
        p.settle = .ok p₁ ∧
        ((value = none ∧ p' = { p₁ with pending := some (.setting setting none) }) ∨
          ∃ text d, value = some text ∧ p₁.draft.take (.setting setting (some text)) = .ok d ∧
            p' = { p₁ with draft := d })) := by
  unfold readLong
  cases Switch.ofLong? name with
  | some switch => cases value <;> simp
  | none =>
    cases Setting.ofLong? name with
    | none => simp [refuse]
    | some setting =>
      cases value with
      | none =>
        cases p.settle <;> simp [bind, Except.bind, pure, Except.pure, eq_comm]
      | some text =>
        cases p.settle with
        | error e => simp [bind, Except.bind]
        | ok p₁ =>
          cases hgive : p₁.draft.give setting (some text) <;>
            simp [Draft.take, hgive, bind, Except.bind, pure, Except.pure, eq_comm]

/-- Letters are taken one by one, each as a switch. -/
theorem readLetters_cons_eq_ok_iff {letter : Char} {rest : List Char} :
    readLetters (letter :: rest) p = .ok p' ↔
      ∃ switch p₁, Switch.ofShort? letter = some switch ∧ p.turnOn switch true = .ok p₁ ∧
        readLetters rest p₁ = .ok p' := by
  rw [readLetters]
  cases Switch.ofShort? letter with
  | none => simp [refuse]
  | some switch => cases hturn : p.turnOn switch true <;> simp [hturn, bind, Except.bind]

/-- Two hyphens do not touch the value that is kept back. -/
theorem settle_separated (h : p.settle = .ok p') :
    ({ p with onlyCommands := true } : Progress).settle = .ok { p' with onlyCommands := true } := by
  rcases settle_eq_ok_iff.mp h with ⟨hpending, rfl⟩ | ⟨pending, d, hpending, htake, rfl⟩
  · exact settle_eq_ok_iff.mpr (.inl ⟨hpending, rfl⟩)
  · exact settle_eq_ok_iff.mpr (.inr ⟨pending, d, hpending, htake, rfl⟩)

/-! ## Kinds of words -/

/-- Two hyphens alone leave only commands to come. -/
theorem read_separator (h : p.onlyCommands = false) :
    p.read "--" = .ok { p with onlyCommands := true } := by
  simp [read, h]

/-- A value as it stands behind the name of a setting. -/
def attached (value : Option String) : List Char :=
  value.elim [] fun text => '=' :: text.toList

/-- A name ends where its value is attached. -/
theorem takeWhile_append_attached {name : String} (hname : '=' ∉ name.toList)
    (value : Option String) :
    (name.toList ++ attached value).takeWhile (· != '=') = name.toList := by
  rw [List.takeWhile_append_of_pos fun c hc => by simpa using ne_of_mem_of_not_mem hc hname]
  cases value <;> simp [attached]

/-- What stands behind a name tells whether there is a value and which one. -/
theorem attached_injective : Function.Injective attached := by
  rintro (_ | text) (_ | text') h <;> simp_all [attached, String.toList_inj]

/-- What stands behind two hyphens is a name and a value in one way only. -/
theorem name_attached_inj {name name' : String} {value value' : Option String}
    (hname : '=' ∉ name.toList) (hname' : '=' ∉ name'.toList) :
    name.toList ++ attached value = name'.toList ++ attached value' ↔
      name = name' ∧ value = value' := by
  refine ⟨fun h => ?_, fun ⟨hn, hv⟩ => by rw [hn, hv]⟩
  have hsame : name.toList = name'.toList := by
    rw [← takeWhile_append_attached hname value, h, takeWhile_append_attached hname' value']
  refine ⟨String.toList_inj.mp hsame, attached_injective ?_⟩
  rw [hsame] at h
  exact List.append_cancel_left h

/-- A word behind two hyphens is read by its name, which ends at the first equals sign, and by the
value behind that sign. -/
theorem read_long_parts {word : String} {c : Char} {rest : List Char}
    (hword : word.toList = '-' :: '-' :: c :: rest) :
    ∃ name value, (∀ p : Progress, p.onlyCommands = false → p.read word = p.readLong name value) ∧
      '=' ∉ name.toList ∧ word.toList = '-' :: '-' :: (name.toList ++ attached value) := by
  have hspan := List.span_eq_takeWhile_dropWhile (· != '=') (c :: rest)
  have hwhole := List.takeWhile_append_dropWhile (p := (· != '=')) (l := c :: rest)
  have hname : '=' ∉ (c :: rest).takeWhile (· != '=') := fun h => by
    simpa using List.mem_takeWhile_imp h
  have hstops := List.head?_dropWhile_not (· != '=') (c :: rest)
  generalize (c :: rest).takeWhile (· != '=') = name at hspan hwhole hname
  generalize (c :: rest).dropWhile (· != '=') = behind at hspan hwhole hstops
  cases behind with
  | nil =>
    refine ⟨String.ofList name, none, fun p honly => ?_, by simpa using hname, ?_⟩
    · simp only [read, honly, hword, hspan, Bool.false_eq_true, if_false]
    · simp [hword, ← hwhole, attached]
  | cons mark value =>
    obtain rfl : mark = '=' := by simpa using hstops
    refine ⟨String.ofList name, some (String.ofList value), fun p honly => ?_,
      by simpa using hname, ?_⟩
    · simp only [read, honly, hword, hspan, Bool.false_eq_true, if_false]
    · simp [hword, ← hwhole, attached]

/-- A word with one hyphen is read letter by letter. -/
theorem read_letters {word : String} {letter : Char} {rest : List Char}
    (hword : word.toList = '-' :: letter :: rest) (hletter : letter ≠ '-')
    (h : p.onlyCommands = false) : p.read word = p.readLetters (letter :: rest) := by
  unfold read
  simp only [h, hword, Bool.false_eq_true, if_false]
  split <;> simp_all

/-- A word with nothing behind an opening hyphen is read as a plain one, also behind two hyphens. -/
theorem read_plain {word : String} (hword : ∀ letter rest, word.toList ≠ '-' :: letter :: rest)
    : p.read word = p.readPlain word := by
  unfold read
  split
  · rfl
  · split <;> simp_all

/-- The kinds of words other than the two hyphens alone. -/
inductive WordKind (word : String) : Prop
  | long {c : Char} {rest : List Char} (h : word.toList = '-' :: '-' :: c :: rest)
  | letters {letter : Char} {rest : List Char} (h : word.toList = '-' :: letter :: rest)
      (hletter : letter ≠ '-')
  | plain (h : ∀ letter rest, word.toList ≠ '-' :: letter :: rest)

/-- Every word other than the two hyphens alone is of one of the kinds. -/
theorem wordKind_of_ne {word : String} (h : word ≠ "--") : WordKind word := by
  rw [Ne, ← String.toList_inj] at h
  match hword : word.toList with
  | [] => exact .plain (by simp [hword])
  | [c] => exact .plain (by simp [hword])
  | c :: letter :: rest =>
    by_cases hc : c = '-'
    · by_cases hletter : letter = '-'
      · subst hc hletter
        cases rest with
        | nil => exact absurd hword h
        | cons d rest => exact .long hword
      · exact .letters (hc ▸ hword) hletter
    · exact .plain fun _ _ h => hc (List.cons.inj (hword.symm.trans h)).1

/-! ## Lines -/

/-- Words are read one by one. -/
theorem foldlM_cons_eq_ok_iff {word : String} {rest : List String} :
    (word :: rest).foldlM read p = .ok p' ↔
      ∃ p₁, p.read word = .ok p₁ ∧ rest.foldlM read p₁ = .ok p' := by
  rw [List.foldlM_cons]
  cases p.read word <;> simp [bind, Except.bind]

/-- Reading one word is a reading of that word. -/
theorem foldlM_singleton (word : String) (q : Progress) : [word].foldlM read q = q.read word := by
  rw [List.foldlM_cons]
  cases q.read word <;> rfl

end Progress

/-- A command line is taken when its words can be read and the last value kept back is checked. -/
theorem parse_eq_ok_iff {words : List String} {uriValue : Option String} {arguments : Arguments} :
    parse words uriValue = .ok arguments ↔
      ∃ p p', words.foldlM Progress.read Progress.start = .ok p ∧ p.settle = .ok p' ∧
        arguments = p'.draft.finish uriValue := by
  unfold parse
  cases words.foldlM Progress.read Progress.start with
  | error e => simp [bind, Except.bind]
  | ok p =>
    cases hsettle : p.settle <;>
      simp [hsettle, bind, Except.bind, pure, Except.pure, eq_comm]

end FailoverControl.CommandLine
