import FailoverControl.Proofs.CommandLine.Reading

/-!
# The switch that answers all questions

Questions are answered beforehand when the switch `--yes` or its letter stands on the command line.
No environment and no other word turns it on. Leaving it out of a command line that is accepted
changes nothing else: the line is accepted again and asks for the same.

The main statements: of an accepted command line the switch is on exactly when a word in front of
two hyphens says so (`parse_yes_iff`), and without these words the line comes to the same arguments
with the switch off (`parse_withoutYes`).
-/

set_option autoImplicit false

namespace FailoverControl.CommandLine

/-! ## Words -/

/-- Whether a word turns the switch on, by its name or among letters. -/
def NamesYes (word : String) : Prop :=
  word = "--yes" ∨
    ∃ letter rest, word.toList = '-' :: letter :: rest ∧ letter ≠ '-' ∧ 'y' ∈ letter :: rest

/-- Whether a command line turns the switch on; behind two hyphens there are no switches. -/
def SaysYes (words : List String) : Prop :=
  ∃ word ∈ words.takeWhile (· ≠ "--"), NamesYes word

/-- What remains of a word without the switch; of the switch alone nothing remains. -/
def wordWithoutYes (word : String) : List String :=
  match word.toList with
  | '-' :: '-' :: rest => if rest = ['y', 'e', 's'] then [] else [word]
  | '-' :: letter :: rest =>
    let others := (letter :: rest).filter (· ≠ 'y')
    if others = [] then [] else [String.ofList ('-' :: others)]
  | _ => [word]

/-- A command line without the switch. -/
def withoutYes : List String → List String
  | [] => []
  | word :: rest => if word = "--" then word :: rest else wordWithoutYes word ++ withoutYes rest

example : withoutYes ["-vy", "giveback", "--", "-y"] = ["-v", "giveback", "--", "-y"] := by decide

/-! ## Values -/

namespace Draft

variable {draft d : Draft}

/-- What a value is taken for does not depend on the switch, and leaves it. -/
theorem take_with {pending : Pending} (h : draft.take pending = .ok d) (yes : Bool)
    (given : Given) :
    ∃ given', ({ draft with yes, given } : Draft).take pending =
      .ok { d with yes, given := given' } := by
  cases pending with
  | command name =>
    obtain ⟨command, hname, rfl⟩ := take_command_eq_ok_iff.mp h
    exact ⟨_, take_command_eq_ok_iff.mpr ⟨command, hname, rfl⟩⟩
  | setting setting value =>
    obtain ⟨text, hvalue, hnew, hstores⟩ := take_setting_eq_ok_iff.mp h
    cases setting with
    | uri =>
      obtain rfl := hstores
      exact ⟨_, take_setting_eq_ok_iff.mpr ⟨text, hvalue, hnew, rfl⟩⟩
    | peerTimeout =>
      obtain ⟨n, hseconds, rfl⟩ := hstores
      exact ⟨_, take_setting_eq_ok_iff.mpr ⟨text, hvalue, hnew, n, hseconds, rfl⟩⟩
    | peerConnectTimeout =>
      obtain ⟨n, hseconds, rfl⟩ := hstores
      exact ⟨_, take_setting_eq_ok_iff.mpr ⟨text, hvalue, hnew, n, hseconds, rfl⟩⟩

/-- No value of a setting turns the switch on. -/
theorem yes_of_take {pending : Pending} (h : draft.take pending = .ok d) : d.yes = draft.yes := by
  obtain ⟨given', hsame⟩ := take_with h draft.yes draft.given
  have heq := Except.ok.inj (h.symm.trans hsame)
  rw [heq]

/-- The other switches do not depend on this one, and leave it. -/
theorem turnOn_with {switch : Switch} {byLetter : Bool} (hswitch : switch ≠ .yes)
    (h : draft.turnOn switch byLetter = .ok d) (yes : Bool) (given : Given) :
    ∃ given', ({ draft with yes, given } : Draft).turnOn switch byLetter =
      .ok { d with yes, given := given' } := by
  cases switch with
  | yes => exact absurd rfl hswitch
  | help => cases h
  | version => cases h
  | verbose =>
    cases h
    exact ⟨_, rfl⟩
  | quiet =>
    cases hquiet : draft.quiet with
    | true =>
      simp only [turnOn, hquiet, if_true] at h
      cases h
    | false =>
      simp only [turnOn, hquiet, Bool.false_eq_true, if_false] at h ⊢
      cases h
      exact ⟨_, rfl⟩

/-- The switch is on when it was before or when it is the one that is turned on. -/
theorem yes_of_turnOn {switch : Switch} {byLetter : Bool}
    (h : draft.turnOn switch byLetter = .ok d) :
    d.yes = true ↔ draft.yes = true ∨ switch = .yes := by
  by_cases hswitch : switch = .yes
  · subst hswitch
    obtain ⟨-, rfl⟩ := turnOn_yes_eq_ok_iff.mp h
    exact iff_of_true rfl (.inr rfl)
  · obtain ⟨given', hsame⟩ := turnOn_with hswitch h draft.yes draft.given
    have heq := Except.ok.inj (h.symm.trans hsame)
    rw [heq]
    simp [hswitch]

end Draft

/-! ## Reading -/

namespace Progress

variable {p p' q : Progress}

/-- A word behind two hyphens is read by its name, and is the switch only with nothing attached. -/
theorem read_long {word : String} {c : Char} {rest : List Char}
    (hword : word.toList = '-' :: '-' :: c :: rest) :
    ∃ name value, (∀ p : Progress, p.onlyCommands = false → p.read word = p.readLong name value) ∧
      (name = "yes" ∧ value = none ↔ word = "--yes") := by
  obtain ⟨name, value, hread, hname, hparts⟩ := read_long_parts hword
  refine ⟨name, value, hread, ?_⟩
  have hyes : "--yes".toList = '-' :: '-' :: ("yes".toList ++ attached none) := by decide
  rw [← name_attached_inj hname (by decide), ← String.toList_inj, hparts, hyes]
  simp only [List.cons.injEq, true_and]

/-- A long word names the switch when it is its name. -/
theorem namesYes_long {word : String} {c : Char} {rest : List Char}
    (hword : word.toList = '-' :: '-' :: c :: rest) : NamesYes word ↔ word = "--yes" := by
  simp [NamesYes, hword]

/-- A word of letters names the switch when its letter is among them. -/
theorem namesYes_letters {word : String} {letter : Char} {rest : List Char}
    (hword : word.toList = '-' :: letter :: rest) (hletter : letter ≠ '-') :
    NamesYes word ↔ 'y' ∈ letter :: rest := by
  have hlong : word ≠ "--yes" := by
    rintro rfl
    have hhyphen : letter = '-' ∧ rest = ['y', 'e', 's'] := by simpa using hword.symm
    exact hletter hhyphen.1
  simp [NamesYes, hword, hlong, hletter]

/-- A plain word does not name the switch. -/
theorem not_namesYes_plain {word : String}
    (hword : ∀ letter rest, word.toList ≠ '-' :: letter :: rest) : ¬ NamesYes word := by
  rintro (rfl | ⟨letter, rest, h, -⟩)
  · exact hword _ _ rfl
  · exact hword letter rest h

/-! ## What turns the switch on -/

/-- The switch has one long name. -/
theorem ofLong?_eq_some_yes_iff {name : String} :
    Switch.ofLong? name = some .yes ↔ name = "yes" := by
  constructor
  · intro h
    have hname := List.find?_some h
    simpa [Switch.long, eq_comm] using hname
  · rintro rfl
    rfl

/-- The switch has one letter. -/
theorem ofShort?_eq_some_yes_iff {letter : Char} :
    Switch.ofShort? letter = some .yes ↔ letter = 'y' := by
  constructor
  · intro h
    have hletter := List.find?_some h
    simpa [Switch.short, eq_comm] using hletter
  · rintro rfl
    rfl

/-- Checking the value that has been kept back changes only the setting that it is for. -/
theorem settle_fields (h : p.settle = .ok p') :
    p'.pending = none ∧ p'.commandMet = p.commandMet ∧ p'.onlyCommands = p.onlyCommands ∧
      p'.draft.yes = p.draft.yes := by
  rcases settle_eq_ok_iff.mp h with ⟨hpending, rfl⟩ | ⟨_, _, -, htake, rfl⟩
  · exact ⟨hpending, rfl, rfl, rfl⟩
  · exact ⟨rfl, rfl, rfl, Draft.yes_of_take htake⟩

/-- Of what is kept of the words, turning a switch on changes that switch only. -/
theorem turnOn_fields {switch : Switch} {byLetter : Bool}
    (h : p.turnOn switch byLetter = .ok p') :
    p'.onlyCommands = p.onlyCommands ∧
      (p'.draft.yes = true ↔ p.draft.yes = true ∨ switch = .yes) := by
  obtain ⟨p₁, d, hsettle, hdraft, rfl⟩ := turnOn_eq_ok_iff.mp h
  obtain ⟨-, -, honly, hyes⟩ := settle_fields hsettle
  refine ⟨honly, ?_⟩
  rw [← hyes]
  exact Draft.yes_of_turnOn hdraft

/-- A plain word leaves the switch as it is. -/
theorem readPlain_fields {text : String} (h : p.readPlain text = .ok p') :
    p'.onlyCommands = p.onlyCommands ∧ p'.draft.yes = p.draft.yes := by
  rcases readPlain_eq_ok_iff.mp h with ⟨_, -, -, rfl⟩ | ⟨-, p₁, hsettle, rfl⟩
  · exact ⟨rfl, rfl⟩
  · obtain ⟨-, -, honly, hyes⟩ := settle_fields hsettle
    exact ⟨honly, hyes⟩

/-- A long word turns the switch on when it is its name without a value. -/
theorem readLong_fields {name : String} {value : Option String}
    (h : p.readLong name value = .ok p') :
    p'.onlyCommands = p.onlyCommands ∧
      (p'.draft.yes = true ↔ p.draft.yes = true ∨ (name = "yes" ∧ value = none)) := by
  rcases readLong_eq_ok_iff.mp h with
    ⟨switch, hname, rfl, hturn⟩ | ⟨setting, p₁, hname, -, hsettle, hvalue⟩
  · obtain ⟨honly, hyes⟩ := turnOn_fields hturn
    refine ⟨honly, hyes.trans (or_congr_right ?_)⟩
    rw [and_iff_left rfl, ← ofLong?_eq_some_yes_iff, hname, Option.some.injEq]
  · have hother : name ≠ "yes" := by
      rintro rfl
      cases hname
    obtain ⟨-, -, honly, hyes⟩ := settle_fields hsettle
    rcases hvalue with ⟨rfl, rfl⟩ | ⟨_, _, rfl, htake, rfl⟩
    · exact ⟨honly, by simp [hother, hyes]⟩
    · have hd := Draft.yes_of_take htake
      exact ⟨honly, by simp [hother, hd, hyes]⟩

/-- Letters turn the switch on when its letter is among them. -/
theorem readLetters_fields {letters : List Char} (h : readLetters letters p = .ok p') :
    p'.onlyCommands = p.onlyCommands ∧
      (p'.draft.yes = true ↔ p.draft.yes = true ∨ 'y' ∈ letters) := by
  induction letters generalizing p with
  | nil =>
    cases h
    simp
  | cons letter rest ih =>
    obtain ⟨switch, p₁, hletter, hturn, hrest⟩ := readLetters_cons_eq_ok_iff.mp h
    obtain ⟨honly, hyes⟩ := turnOn_fields hturn
    obtain ⟨honly', hyes'⟩ := ih hrest
    have hswitch : switch = .yes ↔ 'y' = letter := by
      rw [eq_comm (a := 'y'), ← ofShort?_eq_some_yes_iff, hletter, Option.some.injEq]
    refine ⟨honly'.trans honly, ?_⟩
    rw [hyes', hyes, hswitch, List.mem_cons, or_assoc]

/-- A word turns the switch on exactly when it says so. -/
theorem read_fields {word : String} (honly : p.onlyCommands = false) (hword : word ≠ "--")
    (h : p.read word = .ok p') :
    p'.onlyCommands = false ∧ (p'.draft.yes = true ↔ p.draft.yes = true ∨ NamesYes word) := by
  cases wordKind_of_ne hword with
  | long hlong =>
    obtain ⟨name, value, hread, hyes⟩ := read_long hlong
    rw [hread p honly] at h
    rw [namesYes_long hlong, ← hyes, ← honly]
    exact readLong_fields h
  | letters hletters hletter =>
    rw [read_letters hletters hletter honly] at h
    rw [namesYes_letters hletters hletter, ← honly]
    exact readLetters_fields h
  | plain hplain =>
    rw [read_plain hplain] at h
    obtain ⟨honly', hyes⟩ := readPlain_fields h
    exact ⟨honly'.trans honly, by simp [hyes, not_namesYes_plain hplain]⟩

/-- Behind two hyphens nothing turns the switch on. -/
theorem yes_of_onlyCommands {words : List String} (honly : p.onlyCommands = true)
    (h : words.foldlM read p = .ok p') : p'.draft.yes = p.draft.yes := by
  induction words generalizing p with
  | nil =>
    cases h
    rfl
  | cons word rest ih =>
    obtain ⟨p₁, hread, hrest⟩ := foldlM_cons_eq_ok_iff.mp h
    have hplain : p.readPlain word = .ok p₁ := by rwa [read, if_pos honly] at hread
    obtain ⟨honly', hyes⟩ := readPlain_fields hplain
    exact (ih (honly'.trans honly) hrest).trans hyes

/-- Words turn the switch on when one of them names it. -/
theorem yes_of_reading {words : List String} (honly : p.onlyCommands = false)
    (h : words.foldlM read p = .ok p') :
    p'.draft.yes = true ↔ p.draft.yes = true ∨ SaysYes words := by
  induction words generalizing p with
  | nil =>
    cases h
    simp [SaysYes]
  | cons word rest ih =>
    obtain ⟨p₁, hread, hrest⟩ := foldlM_cons_eq_ok_iff.mp h
    by_cases hword : word = "--"
    · subst hword
      obtain rfl := Except.ok.inj (hread.symm.trans (read_separator honly))
      have hsame := yes_of_onlyCommands rfl hrest
      simp [hsame, SaysYes]
    · obtain ⟨honly', hyes⟩ := read_fields honly hword hread
      rw [ih honly' hrest, hyes]
      simp [SaysYes, hword, or_assoc]

/-! ## Leaving the switch out -/

/-- The second reading is the first one without the switch. What has been given counts in messages
only. -/
def Alike (p q : Progress) : Prop :=
  ∃ given, q = { p with draft := { p.draft with yes := false, given } }

/-- The second reading may also keep back a value that the first one has checked when it met the
switch. -/
def Trails (p q : Progress) : Prop :=
  p.Alike q ∨ p.pending = none ∧ ∃ q', q.settle = .ok q' ∧ p.Alike q'

/-- Readings that are alike check what they have kept back in the same way. -/
theorem Alike.settle (h : p.Alike q) (hp : p.settle = .ok p') :
    ∃ q', q.settle = .ok q' ∧ p'.Alike q' := by
  obtain ⟨given, rfl⟩ := h
  rcases settle_eq_ok_iff.mp hp with ⟨hpending, rfl⟩ | ⟨pending, d, hpending, htake, rfl⟩
  · exact ⟨_, settle_eq_ok_iff.mpr (.inl ⟨hpending, rfl⟩), given, rfl⟩
  · obtain ⟨given', hsame⟩ := Draft.take_with htake false given
    exact ⟨_, settle_eq_ok_iff.mpr (.inr ⟨pending, _, hpending, hsame, rfl⟩), given', rfl⟩

/-- Once both have checked what they have kept back, the readings are alike. -/
theorem Trails.settle (h : p.Trails q) (hp : p.settle = .ok p') :
    ∃ q', q.settle = .ok q' ∧ p'.Alike q' := by
  rcases h with hsame | ⟨hpending, hsame⟩
  · exact hsame.settle hp
  · have hsettled : p.settle = .ok p := settle_eq_ok_iff.mpr (.inl ⟨hpending, rfl⟩)
    obtain rfl := Except.ok.inj (hp.symm.trans hsettled)
    exact hsame

/-- The second reading has met the command and the two hyphens where the first one has. -/
theorem Trails.fields (h : p.Trails q) :
    q.commandMet = p.commandMet ∧ q.onlyCommands = p.onlyCommands := by
  rcases h with ⟨given, rfl⟩ | ⟨-, q', hq, given, rfl⟩
  · exact ⟨rfl, rfl⟩
  · obtain ⟨-, hmet, honly, -⟩ := settle_fields hq
    exact ⟨hmet.symm, honly.symm⟩

/-- Turning another switch on makes the readings alike. -/
theorem Trails.turnOn {switch : Switch} {byLetter : Bool} (h : p.Trails q)
    (hswitch : switch ≠ .yes) (hp : p.turnOn switch byLetter = .ok p') :
    ∃ q', q.turnOn switch byLetter = .ok q' ∧ p'.Alike q' := by
  obtain ⟨p₁, d, hsettle, hdraft, rfl⟩ := turnOn_eq_ok_iff.mp hp
  obtain ⟨_, hq, given, rfl⟩ := h.settle hsettle
  obtain ⟨given', hsame⟩ := Draft.turnOn_with hswitch hdraft false given
  exact ⟨_, turnOn_eq_ok_iff.mpr ⟨_, _, hq, hsame, rfl⟩, given', rfl⟩

/-- The first reading meets the switch, the second one does not. -/
theorem Trails.turnOn_yes {byLetter : Bool} (h : p.Trails q)
    (hp : p.turnOn .yes byLetter = .ok p') : p'.Trails q := by
  obtain ⟨p₁, d, hsettle, hdraft, rfl⟩ := turnOn_eq_ok_iff.mp hp
  obtain ⟨q', hq, given, rfl⟩ := h.settle hsettle
  obtain ⟨-, rfl⟩ := Draft.turnOn_yes_eq_ok_iff.mp hdraft
  exact .inr ⟨(settle_fields hsettle).1, _, hq, given, rfl⟩

/-- Both readings take a plain word. -/
theorem Trails.readPlain {text : String} (h : p.Trails q) (hp : p.readPlain text = .ok p') :
    ∃ q', q.readPlain text = .ok q' ∧ p'.Trails q' := by
  rcases readPlain_eq_ok_iff.mp hp with
    ⟨setting, hpending, honly, rfl⟩ | ⟨hmet, p₁, hsettle, rfl⟩
  · rcases h with ⟨given, rfl⟩ | ⟨hnone, -⟩
    · refine ⟨_, readPlain_eq_ok_iff.mpr (.inl ⟨setting, hpending, honly, rfl⟩), .inl ?_⟩
      exact ⟨given, rfl⟩
    · rw [hnone] at hpending
      cases hpending
  · obtain ⟨hmet', -⟩ := h.fields
    obtain ⟨_, hq, given, rfl⟩ := h.settle hsettle
    refine ⟨_, readPlain_eq_ok_iff.mpr (.inr ⟨hmet'.trans hmet, _, hq, rfl⟩), .inl ?_⟩
    exact ⟨given, rfl⟩

/-- Both readings take a long word that is not the switch. -/
theorem Trails.readLong {name : String} {value : Option String} (h : p.Trails q)
    (hother : ¬ (name = "yes" ∧ value = none)) (hp : p.readLong name value = .ok p') :
    ∃ q', q.readLong name value = .ok q' ∧ p'.Trails q' := by
  rcases readLong_eq_ok_iff.mp hp with
    ⟨switch, hname, rfl, hturn⟩ | ⟨setting, p₁, hname, hsetting, hsettle, hvalue⟩
  · have hswitch : switch ≠ .yes := by
      rintro rfl
      exact hother ⟨ofLong?_eq_some_yes_iff.mp hname, rfl⟩
    obtain ⟨q', hq, hsame⟩ := h.turnOn hswitch hturn
    exact ⟨q', readLong_eq_ok_iff.mpr (.inl ⟨switch, hname, rfl, hq⟩), .inl hsame⟩
  · obtain ⟨_, hq, given, rfl⟩ := h.settle hsettle
    rcases hvalue with ⟨rfl, rfl⟩ | ⟨text, d, rfl, htake, rfl⟩
    · refine ⟨_, readLong_eq_ok_iff.mpr
        (.inr ⟨setting, _, hname, hsetting, hq, .inl ⟨rfl, rfl⟩⟩), .inl ⟨given, rfl⟩⟩
    · obtain ⟨given', hsame⟩ := Draft.take_with htake false given
      refine ⟨_, readLong_eq_ok_iff.mpr
        (.inr ⟨setting, _, hname, hsetting, hq, .inr ⟨text, _, rfl, hsame, rfl⟩⟩),
        .inl ⟨given', rfl⟩⟩

/-- The second reading takes the letters other than that of the switch. -/
theorem Trails.readLetters {letters : List Char} (h : p.Trails q)
    (hp : Progress.readLetters letters p = .ok p') :
    ∃ q', Progress.readLetters (letters.filter (· ≠ 'y')) q = .ok q' ∧ p'.Trails q' := by
  induction letters generalizing p q with
  | nil =>
    cases hp
    exact ⟨q, rfl, h⟩
  | cons letter rest ih =>
    obtain ⟨switch, p₁, hletter, hturn, hrest⟩ := readLetters_cons_eq_ok_iff.mp hp
    by_cases hswitch : switch = .yes
    · subst hswitch
      obtain rfl := ofShort?_eq_some_yes_iff.mp hletter
      exact ih (h.turnOn_yes hturn) hrest
    · have hother : letter ≠ 'y' := by
        rintro rfl
        exact hswitch (Option.some.inj (hletter.symm.trans (ofShort?_eq_some_yes_iff.mpr rfl)))
      obtain ⟨q₁, hq, hsame⟩ := h.turnOn hswitch hturn
      obtain ⟨q', hq', htrails⟩ := ih (.inl hsame) hrest
      refine ⟨q', ?_, htrails⟩
      rw [List.filter_cons_of_pos (by simpa using hother)]
      exact readLetters_cons_eq_ok_iff.mpr ⟨switch, q₁, hletter, hq, hq'⟩

/-- Of the long words only the name of the switch is left out. -/
theorem wordWithoutYes_long {word : String} {c : Char} {rest : List Char}
    (hword : word.toList = '-' :: '-' :: c :: rest) :
    wordWithoutYes word = if word = "--yes" then [] else [word] := by
  have hyes : word = "--yes" ↔ c :: rest = ['y', 'e', 's'] := by
    rw [← String.toList_inj, hword]
    simp
  simp only [wordWithoutYes, hword, hyes]

/-- Of a word of letters the letter of the switch is left out, and the word with it when it is the
only one. -/
theorem wordWithoutYes_letters {word : String} {letter : Char} {rest : List Char}
    (hword : word.toList = '-' :: letter :: rest) (hletter : letter ≠ '-') :
    wordWithoutYes word =
      if (letter :: rest).filter (· ≠ 'y') = [] then []
      else [String.ofList ('-' :: (letter :: rest).filter (· ≠ 'y'))] := by
  unfold wordWithoutYes
  rw [hword]
  split
  · rename_i h
    exact absurd (List.cons.inj (List.cons.inj h).2).1 hletter
  · rename_i h
    obtain ⟨rfl, rfl⟩ := List.cons.inj (List.cons.inj h).2
    rfl
  · rename_i h
    exact absurd rfl (h letter rest)

/-- A plain word stays. -/
theorem wordWithoutYes_plain {word : String}
    (hword : ∀ letter rest, word.toList ≠ '-' :: letter :: rest) :
    wordWithoutYes word = [word] := by
  unfold wordWithoutYes
  split
  · rename_i h
    exact absurd h (hword _ _)
  · rename_i h
    exact absurd h (hword _ _)
  · rfl

/-- A word and what remains of it without the switch. -/
theorem Trails.read {word : String} (h : p.Trails q) (honly : p.onlyCommands = false)
    (hword : word ≠ "--") (hp : p.read word = .ok p') :
    ∃ q', (wordWithoutYes word).foldlM Progress.read q = .ok q' ∧ p'.Trails q' := by
  have honly' : q.onlyCommands = false := h.fields.2.trans honly
  cases wordKind_of_ne hword with
  | long hlong =>
    obtain ⟨name, value, hread, hyes⟩ := read_long hlong
    rw [hread p honly] at hp
    rw [wordWithoutYes_long hlong]
    by_cases hname : name = "yes" ∧ value = none
    · rw [if_pos (hyes.mp hname)]
      obtain ⟨rfl, rfl⟩ := hname
      exact ⟨q, rfl, h.turnOn_yes hp⟩
    · rw [if_neg fun hword => hname (hyes.mpr hword), foldlM_singleton, hread q honly']
      exact h.readLong hname hp
  | @letters letter rest hletters hletter =>
    rw [read_letters hletters hletter honly] at hp
    obtain ⟨q', hq, htrails⟩ := h.readLetters hp
    refine ⟨q', ?_, htrails⟩
    rw [wordWithoutYes_letters hletters hletter]
    cases hothers : (letter :: rest).filter (· ≠ 'y') with
    | nil =>
      rw [hothers] at hq
      exact hq
    | cons other others =>
      rw [hothers] at hq
      -- A letter that has been read is no hyphen, so these letters make a word of the same kind.
      have hhyphen : other ≠ '-' := by
        rintro rfl
        obtain ⟨switch, _, hswitch, -⟩ := readLetters_cons_eq_ok_iff.mp hq
        cases hswitch
      rw [if_neg (List.cons_ne_nil _ _), foldlM_singleton,
        read_letters String.toList_ofList hhyphen honly']
      exact hq
  | plain hplain =>
    rw [read_plain hplain] at hp
    rw [wordWithoutYes_plain hplain, foldlM_singleton, read_plain hplain]
    exact h.readPlain hp

/-- Behind two hyphens both readings read the same words. -/
theorem Trails.readCommands {words : List String} (h : p.Trails q) (honly : p.onlyCommands = true)
    (hp : words.foldlM Progress.read p = .ok p') :
    ∃ q', words.foldlM Progress.read q = .ok q' ∧ p'.Trails q' := by
  induction words generalizing p q with
  | nil =>
    cases hp
    exact ⟨q, rfl, h⟩
  | cons word rest ih =>
    obtain ⟨p₁, hread, hrest⟩ := foldlM_cons_eq_ok_iff.mp hp
    have hplain : p.readPlain word = .ok p₁ := by rwa [Progress.read, if_pos honly] at hread
    obtain ⟨q₁, hq, htrails⟩ := h.readPlain hplain
    have hq₁ : q.read word = .ok q₁ := by rwa [Progress.read, if_pos (h.fields.2.trans honly)]
    obtain ⟨q', hq', htrails'⟩ := ih htrails ((readPlain_fields hplain).1.trans honly) hrest
    exact ⟨q', foldlM_cons_eq_ok_iff.mpr ⟨q₁, hq₁, hq'⟩, htrails'⟩

/-- The second reading takes all words without the switch. -/
theorem Trails.readAll {words : List String} (h : p.Trails q) (honly : p.onlyCommands = false)
    (hp : words.foldlM Progress.read p = .ok p') :
    ∃ q', (withoutYes words).foldlM Progress.read q = .ok q' ∧ p'.Trails q' := by
  induction words generalizing p q with
  | nil =>
    cases hp
    exact ⟨q, rfl, h⟩
  | cons word rest ih =>
    obtain ⟨p₁, hread, hrest⟩ := foldlM_cons_eq_ok_iff.mp hp
    by_cases hword : word = "--"
    · subst hword
      have honly' : q.onlyCommands = false := h.fields.2.trans honly
      obtain rfl := Except.ok.inj (hread.symm.trans (read_separator honly))
      have htrails : Trails { p with onlyCommands := true } { q with onlyCommands := true } := by
        rcases h with ⟨given, rfl⟩ | ⟨hpending, q', hq, given, rfl⟩
        · exact .inl ⟨given, rfl⟩
        · exact .inr ⟨hpending, _, settle_separated hq, given, rfl⟩
      obtain ⟨q', hq', htrails'⟩ := htrails.readCommands rfl hrest
      refine ⟨q', ?_, htrails'⟩
      rw [withoutYes, if_pos rfl]
      exact foldlM_cons_eq_ok_iff.mpr ⟨_, read_separator honly', hq'⟩
    · obtain ⟨q₁, hq, htrails⟩ := h.read honly hword hread
      obtain ⟨q', hq', htrails'⟩ := ih htrails (read_fields honly hword hread).1 hrest
      refine ⟨q', ?_, htrails'⟩
      rw [withoutYes, if_neg hword, List.foldlM_append, hq]
      exact hq'

end Progress

/-- Of an accepted command line the switch is on exactly when a word in front of two hyphens says
so, whatever the environment holds. -/
theorem parse_yes_iff {words : List String} {uriValue : Option String} {arguments : Arguments}
    (h : parse words uriValue = .ok arguments) : arguments.yes = true ↔ SaysYes words := by
  obtain ⟨p, p', hread, hsettle, rfl⟩ := parse_eq_ok_iff.mp h
  obtain ⟨-, -, -, hyes⟩ := Progress.settle_fields hsettle
  have hreading := Progress.yes_of_reading rfl hread
  rw [Draft.finish, hyes, hreading]
  simp [Progress.start]

/-- Without the switch an accepted command line is accepted and asks for the same. -/
theorem parse_withoutYes {words : List String} {uriValue : Option String} {arguments : Arguments}
    (h : parse words uriValue = .ok arguments) :
    parse (withoutYes words) uriValue = .ok { arguments with yes := false } := by
  obtain ⟨p, p', hread, hsettle, rfl⟩ := parse_eq_ok_iff.mp h
  have hstart : Progress.start.Trails Progress.start := .inl ⟨.nothing, rfl⟩
  obtain ⟨q, hq, htrails⟩ := hstart.readAll rfl hread
  obtain ⟨_, hq', given, rfl⟩ := htrails.settle hsettle
  exact parse_eq_ok_iff.mpr ⟨q, _, hq, hq', rfl⟩

end FailoverControl.CommandLine
