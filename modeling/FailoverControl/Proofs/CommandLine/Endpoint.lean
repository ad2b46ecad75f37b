import FailoverControl.Proofs.CommandLine.Affirmation
import Mathlib.Data.List.Basic

/-!
# The address on the command line

The address of the daemon is the word behind `--uri`, or stands in one word with it behind an equals
sign. An accepted command line gives at most one; the value of the variable counts only without it,
and the standard address only without both.

Main statements: what an accepted command line gives is what its words say (`parse_uri`), and it
says so at most once (`length_givenUris_le_one`).
-/

set_option autoImplicit false

namespace FailoverControl.CommandLine

/-- The address that a word carries behind an equals sign. -/
def uriWithin? (word : String) : Option String :=
  ("--uri=".toList.isPrefixOf? word.toList).map String.ofList

/-- The addresses that a command line gives; behind two hyphens there are none. -/
def givenUris : List String → List String
  | [] => []
  | word :: rest =>
    if word = "--" then []
    else if word = "--uri" then
      match rest with
      | [] => []
      | uri :: rest => uri :: givenUris rest
    else (uriWithin? word).toList ++ givenUris rest

example : givenUris ["status", "--uri", "ws://a", "-v", "--", "--uri=ws://b"] = ["ws://a"] := by
  decide

/-- Behind two hyphens no address is given. -/
theorem givenUris_separator (rest : List String) : givenUris ("--" :: rest) = [] := by
  simp [givenUris.eq_def]

/-- The word behind the name of the setting is an address. -/
theorem givenUris_name (uri : String) (rest : List String) :
    givenUris ("--uri" :: uri :: rest) = uri :: givenUris rest := by
  rw [givenUris.eq_def]
  simp

/-- Any other word gives the address that it carries, if it carries one. -/
theorem givenUris_otherWord {word : String} (hword : word ≠ "--") (hname : word ≠ "--uri")
    (rest : List String) :
    givenUris (word :: rest) = (uriWithin? word).toList ++ givenUris rest := by
  rw [givenUris.eq_def]
  simp [hword, hname]

/-- A word carries the address that stands behind the name and an equals sign. -/
theorem uriWithin?_eq_some_iff {word uri : String} :
    uriWithin? word = some uri ↔ word.toList = "--uri=".toList ++ uri.toList := by
  rw [uriWithin?, Option.map_eq_some_iff]
  constructor
  · rintro ⟨text, hword, rfl⟩
    simpa using (List.isPrefixOf?_eq_some_iff_append_eq.mp hword).symm
  · intro hword
    exact ⟨_, List.isPrefixOf?_eq_some_iff_append_eq.mpr hword.symm, String.ofList_toList⟩

/-- Only a long word carries an address. -/
theorem uriWithin?_eq_none {word : String}
    (h : ∀ rest, word.toList ≠ '-' :: '-' :: rest) : uriWithin? word = none := by
  refine Option.eq_none_iff_forall_ne_some.mpr fun uri huri => ?_
  exact h _ (uriWithin?_eq_some_iff.mp huri)

/-! ## Values -/

/-- The address that has been kept back. -/
def Pending.uri? : Pending → Option String
  | .setting .uri value => value
  | _ => none

namespace Draft

variable {draft d : Draft}

/-- Taking a value adds its address; an address that is there already would be refused. -/
theorem uri_of_take {pending : Pending} (h : draft.take pending = .ok d) :
    d.uri.toList = draft.uri.toList ++ pending.uri?.toList := by
  cases pending with
  | command name =>
    obtain ⟨command, -, rfl⟩ := take_command_eq_ok_iff.mp h
    simp [Pending.uri?]
  | setting setting value =>
    obtain ⟨text, rfl, hnew, hstores⟩ := take_setting_eq_ok_iff.mp h
    cases setting with
    | uri =>
      obtain rfl := hstores
      have hnone : draft.uri = none := by simpa [has] using hnew
      simp [Pending.uri?, hnone]
    | peerTimeout =>
      obtain ⟨n, -, rfl⟩ := hstores
      simp [Pending.uri?, use]
    | peerConnectTimeout =>
      obtain ⟨n, -, rfl⟩ := hstores
      simp [Pending.uri?, use]

/-- No switch changes the address. -/
theorem uri_of_turnOn {switch : Switch} {byLetter : Bool}
    (h : draft.turnOn switch byLetter = .ok d) : d.uri = draft.uri := by
  cases switch with
  | help => cases h
  | version => cases h
  | verbose =>
    cases h
    rfl
  | yes =>
    obtain ⟨-, rfl⟩ := turnOn_yes_eq_ok_iff.mp h
    rfl
  | quiet =>
    cases hquiet : draft.quiet <;> simp only [turnOn, hquiet] at h <;> cases h
    rfl

end Draft

/-! ## Reading -/

namespace Progress

variable {p p' : Progress}

/-- The addresses that have been read, checked or kept back. -/
def uris (p : Progress) : List String :=
  p.draft.uri.toList ++ (p.pending.bind Pending.uri?).toList

/-- Whether the next word is to be an address. -/
def AwaitsUri (p : Progress) : Prop :=
  p.pending = some (.setting .uri none)

/-- What can be checked is not an address that is still to come. -/
theorem not_awaitsUri_of_settle (h : p.settle = .ok p') : ¬ p.AwaitsUri := by
  intro hawaits
  rcases settle_eq_ok_iff.mp h with ⟨hpending, -⟩ | ⟨pending, d, hpending, htake, -⟩
  · cases hpending.symm.trans hawaits
  · cases hpending.symm.trans hawaits
    cases htake

/-- Checking what has been kept back leaves the addresses that have been read. -/
theorem uris_of_settle (h : p.settle = .ok p') : p'.pending = none ∧ p'.uris = p.uris := by
  rcases settle_eq_ok_iff.mp h with ⟨hpending, rfl⟩ | ⟨pending, d, hpending, htake, rfl⟩
  · exact ⟨hpending, rfl⟩
  · exact ⟨rfl, by simp [uris, hpending, Draft.uri_of_take htake]⟩

/-- No switch gives an address. -/
theorem uris_of_turnOn {switch : Switch} {byLetter : Bool} (h : p.turnOn switch byLetter = .ok p') :
    p'.pending = none ∧ p'.uris = p.uris := by
  obtain ⟨p₁, d, hsettle, hdraft, rfl⟩ := turnOn_eq_ok_iff.mp h
  obtain ⟨hpending, huris⟩ := uris_of_settle hsettle
  exact ⟨hpending, by rw [← huris, uris, uris, Draft.uri_of_turnOn hdraft]⟩

/-- Letters give no address and wait for none. -/
theorem uris_of_readLetters {letters : List Char} (h : readLetters letters p = .ok p') :
    p'.uris = p.uris ∧ (p'.AwaitsUri → p.AwaitsUri) := by
  induction letters generalizing p with
  | nil =>
    cases h
    exact ⟨rfl, id⟩
  | cons letter rest ih =>
    obtain ⟨switch, p₁, -, hturn, hrest⟩ := readLetters_cons_eq_ok_iff.mp h
    obtain ⟨hpending, huris⟩ := uris_of_turnOn hturn
    obtain ⟨huris', hawaits⟩ := ih hrest
    refine ⟨huris'.trans huris, fun h => ?_⟩
    cases hpending.symm.trans (hawaits h)

/-- A plain word is an address when one is awaited, and only then. -/
theorem uris_of_readPlain {text : String} (hawaits : ¬ p.AwaitsUri)
    (h : p.readPlain text = .ok p') : p'.uris = p.uris ∧ ¬ p'.AwaitsUri := by
  rcases readPlain_eq_ok_iff.mp h with ⟨setting, hpending, -, rfl⟩ | ⟨-, p₁, hsettle, rfl⟩
  · refine ⟨?_, fun h => nomatch h⟩
    cases setting with
    | uri => exact absurd hpending hawaits
    | peerTimeout => simp [uris, hpending, Pending.uri?]
    | peerConnectTimeout => simp [uris, hpending, Pending.uri?]
  · obtain ⟨hpending, huris⟩ := uris_of_settle hsettle
    refine ⟨?_, fun h => nomatch h⟩
    rw [← huris]
    simp [uris, hpending, Pending.uri?]

/-- The address has one long name. -/
theorem ofLong?_eq_some_uri_iff {name : String} :
    Setting.ofLong? name = some .uri ↔ name = "uri" := by
  constructor
  · intro h
    simpa [Setting.long, eq_comm] using List.find?_some h
  · rintro rfl
    rfl

/-- Behind two hyphens an address is named, or named and given. -/
theorem uris_of_readLong {name : String} {value : Option String}
    (h : p.readLong name value = .ok p') :
    p'.uris = p.uris ++ (if name = "uri" then value.toList else []) ∧
      (p'.AwaitsUri ↔ name = "uri" ∧ value = none) := by
  rcases readLong_eq_ok_iff.mp h with
    ⟨switch, hname, rfl, hturn⟩ | ⟨setting, p₁, -, hname, hsettle, hvalue⟩
  · obtain ⟨hpending, huris⟩ := uris_of_turnOn hturn
    have hother : name ≠ "uri" := by
      rintro rfl
      cases hname
    simp [AwaitsUri, hpending, huris, hother]
  · obtain ⟨hpending, huris⟩ := uris_of_settle hsettle
    have hsetting : setting = .uri ↔ name = "uri" := by
      rw [← ofLong?_eq_some_uri_iff, hname, Option.some.injEq]
    rw [← huris]
    rcases hvalue with ⟨rfl, rfl⟩ | ⟨text, d, rfl, htake, rfl⟩
    · refine ⟨?_, by simp [AwaitsUri, hsetting]⟩
      cases setting <;> simp [uris, hpending, Pending.uri?]
    · refine ⟨?_, by simp [AwaitsUri, hpending]⟩
      simp only [uris, hpending, Draft.uri_of_take htake, ← hsetting]
      cases setting <;> simp [Pending.uri?]

/-! ## Words -/

/-- The name of the setting makes the reading wait for an address. -/
theorem read_uriName (honly : p.onlyCommands = false) (h : p.read "--uri" = .ok p') :
    p'.uris = p.uris ∧ p'.AwaitsUri := by
  have hword : "--uri".toList = '-' :: '-' :: 'u' :: ['r', 'i'] := by decide
  have huri : "--uri".toList = '-' :: '-' :: ("uri".toList ++ attached none) := by decide
  obtain ⟨name, value, hread, hname, hparts⟩ := read_long_parts hword
  rw [huri] at hparts
  simp only [List.cons.injEq, true_and] at hparts
  obtain ⟨rfl, rfl⟩ := (name_attached_inj (by decide) hname).mp hparts
  rw [hread p honly] at h
  simpa using uris_of_readLong h

/-- Only a plain word is taken where an address is awaited. -/
theorem read_awaited {word : String} (hawaits : p.AwaitsUri) (honly : p.onlyCommands = false)
    (hword : word ≠ "--") (h : p.read word = .ok p') :
    p' = { p with pending := some (.setting .uri (some word)) } := by
  have hunsettled (p₁ : Progress) : p.settle ≠ .ok p₁ := fun h =>
    not_awaitsUri_of_settle h hawaits
  cases wordKind_of_ne hword with
  | long hlong =>
    obtain ⟨name, value, hread, -⟩ := read_long_parts hlong
    rw [hread p honly] at h
    rcases readLong_eq_ok_iff.mp h with ⟨_, -, -, hturn⟩ | ⟨_, p₁, -, -, hsettle, -⟩
    · obtain ⟨p₁, _, hsettle, -⟩ := turnOn_eq_ok_iff.mp hturn
      exact absurd hsettle (hunsettled p₁)
    · exact absurd hsettle (hunsettled p₁)
  | letters hletters hletter =>
    rw [read_letters hletters hletter honly] at h
    obtain ⟨_, _, -, hturn, -⟩ := readLetters_cons_eq_ok_iff.mp h
    obtain ⟨p₁, _, hsettle, -⟩ := turnOn_eq_ok_iff.mp hturn
    exact absurd hsettle (hunsettled p₁)
  | plain hplain =>
    rw [read_plain hplain] at h
    rcases readPlain_eq_ok_iff.mp h with ⟨setting, hpending, -, rfl⟩ | ⟨-, p₁, hsettle, -⟩
    · cases hpending.symm.trans hawaits
      rfl
    · exact absurd hsettle (hunsettled p₁)

/-- Any other word adds the address that it carries, if any. -/
theorem read_otherWord {word : String} (hawaits : ¬ p.AwaitsUri) (honly : p.onlyCommands = false)
    (hword : word ≠ "--") (hname : word ≠ "--uri") (h : p.read word = .ok p') :
    p'.uris = p.uris ++ (uriWithin? word).toList ∧ ¬ p'.AwaitsUri := by
  cases wordKind_of_ne hword with
  | long hlong =>
    obtain ⟨name, value, hread, hmark, hparts⟩ := read_long_parts hlong
    rw [hread p honly] at h
    obtain ⟨huris, hawaits'⟩ := uris_of_readLong h
    have hwithin : uriWithin? word = if name = "uri" then value else none := by
      refine Option.ext fun uri => ?_
      have huri : "--uri=".toList ++ uri.toList =
          '-' :: '-' :: ("uri".toList ++ attached (some uri)) := by simp [attached]
      rw [uriWithin?_eq_some_iff, hparts, huri, List.cons.injEq, List.cons.injEq,
        name_attached_inj hmark (by decide)]
      simp
    have hnamed : ¬ (name = "uri" ∧ value = none) := by
      rintro ⟨rfl, rfl⟩
      refine hname (String.toList_inj.mp (hparts.trans ?_))
      decide
    refine ⟨?_, fun h => hnamed (hawaits'.mp h)⟩
    rw [huris, hwithin]
    split <;> rfl
  | @letters letter rest hletters hletter =>
    rw [read_letters hletters hletter honly] at h
    obtain ⟨huris, hawaits'⟩ := uris_of_readLetters h
    have hnone : uriWithin? word = none := uriWithin?_eq_none fun rest hrest => by
      have := hletters.symm.trans hrest
      simp_all
    simp [hnone, huris, mt hawaits' hawaits]
  | plain hplain =>
    rw [read_plain hplain] at h
    have hnone : uriWithin? word = none := uriWithin?_eq_none fun rest => hplain '-' rest
    simpa [hnone] using uris_of_readPlain hawaits h

/-! ## Lines -/

/-- Behind two hyphens a plain word gives no address. -/
theorem readPlain_of_onlyCommands {text : String} (honly : p.onlyCommands = true)
    (h : p.readPlain text = .ok p') :
    ∃ p₁, p.settle = .ok p₁ ∧ p'.onlyCommands = true ∧ p'.uris = p₁.uris := by
  rcases readPlain_eq_ok_iff.mp h with ⟨_, -, honly', -⟩ | ⟨-, p₁, hsettle, rfl⟩
  · cases honly.symm.trans honly'
  · obtain ⟨hpending, -, honly', -⟩ := settle_fields hsettle
    exact ⟨p₁, hsettle, honly'.trans honly, by simp [uris, hpending, Pending.uri?]⟩

/-- Behind two hyphens no address is given. -/
theorem uris_of_onlyCommands {words : List String} (honly : p.onlyCommands = true)
    (h : words.foldlM read p = .ok p') : p'.uris = p.uris := by
  induction words generalizing p with
  | nil =>
    cases h
    rfl
  | cons word rest ih =>
    obtain ⟨p₁, hread, hrest⟩ := foldlM_cons_eq_ok_iff.mp h
    rw [read, if_pos honly] at hread
    obtain ⟨p₂, hsettle, honly', huris⟩ := readPlain_of_onlyCommands honly hread
    rw [ih honly' hrest, huris, (uris_of_settle hsettle).2]

/-- An address that is awaited in front of two hyphens never comes. -/
theorem awaitsUri_of_onlyCommands {words : List String} (hawaits : p.AwaitsUri)
    (honly : p.onlyCommands = true) (h : words.foldlM read p = .ok p') : p'.AwaitsUri := by
  cases words with
  | nil =>
    cases h
    exact hawaits
  | cons word rest =>
    obtain ⟨p₁, hread, -⟩ := foldlM_cons_eq_ok_iff.mp h
    rw [read, if_pos honly] at hread
    obtain ⟨p₂, hsettle, -⟩ := readPlain_of_onlyCommands honly hread
    exact absurd hawaits (not_awaitsUri_of_settle hsettle)

/-- A line that is read and found complete adds the addresses that it gives. -/
theorem uris_of_reading {words : List String} {q : Progress} (hawaits : ¬ p.AwaitsUri)
    (honly : p.onlyCommands = false) (h : words.foldlM read p = .ok p')
    (hsettle : p'.settle = .ok q) :
    q.uris = p.uris ++ givenUris words := by
  induction words using givenUris.induct generalizing p with
  | case1 =>
    cases h
    rw [givenUris, List.append_nil, (uris_of_settle hsettle).2]
  | case2 rest =>
    -- Two hyphens: what follows is no longer read as options.
    obtain ⟨p₁, hread, hrest⟩ := foldlM_cons_eq_ok_iff.mp h
    obtain rfl := Except.ok.inj (hread.symm.trans (read_separator honly))
    rw [givenUris_separator, List.append_nil, (uris_of_settle hsettle).2,
      uris_of_onlyCommands rfl hrest]
    rfl
  | case3 hword =>
    -- The name of the setting ends the line.
    obtain ⟨p₁, hread, hrest⟩ := foldlM_cons_eq_ok_iff.mp h
    cases hrest
    exact absurd (read_uriName honly hread).2 (not_awaitsUri_of_settle hsettle)
  | case4 uri rest hword ih =>
    -- The name of the setting and the word behind it.
    obtain ⟨p₁, hread, hrest⟩ := foldlM_cons_eq_ok_iff.mp h
    obtain ⟨p₂, hread', hrest'⟩ := foldlM_cons_eq_ok_iff.mp hrest
    obtain ⟨huris, hawaits₁⟩ := read_uriName honly hread
    have honly₁ := (read_fields honly (by decide) hread).1
    by_cases huri : uri = "--"
    · subst huri
      obtain rfl := Except.ok.inj (hread'.symm.trans (read_separator honly₁))
      have hawaits' := awaitsUri_of_onlyCommands (p := { p₁ with onlyCommands := true })
        hawaits₁ rfl hrest'
      exact absurd hawaits' (not_awaitsUri_of_settle hsettle)
    · obtain rfl := read_awaited hawaits₁ honly₁ huri hread'
      have hpending : p₁.pending = some (.setting .uri none) := hawaits₁
      rw [ih (by simp [AwaitsUri]) (by exact honly₁) hrest', givenUris_name, ← huris]
      simp [uris, hpending, Pending.uri?]
  | case5 word rest hword hname ih =>
    obtain ⟨p₁, hread, hrest⟩ := foldlM_cons_eq_ok_iff.mp h
    obtain ⟨huris, hawaits₁⟩ := read_otherWord hawaits honly hword hname hread
    rw [ih hawaits₁ (read_fields honly hword hread).1 hrest, huris,
      givenUris_otherWord hword hname, List.append_assoc]

end Progress

variable {words : List String} {uriValue : Option String} {arguments : Arguments}

/-- A command line that is taken has read exactly the addresses that it gives. -/
theorem draft_uri_of_parse (h : parse words uriValue = .ok arguments) :
    ∃ draft : Draft, draft.uri.toList = givenUris words ∧ arguments = draft.finish uriValue := by
  obtain ⟨p, p', hread, hsettle, rfl⟩ := parse_eq_ok_iff.mp h
  refine ⟨p'.draft, ?_, rfl⟩
  have hstart : ¬ Progress.start.AwaitsUri := by simp [Progress.AwaitsUri, Progress.start]
  have huris := Progress.uris_of_reading hstart rfl hread hsettle
  obtain ⟨hpending, -⟩ := Progress.uris_of_settle hsettle
  simpa [Progress.uris, hpending, Progress.start] using huris

/-- An accepted command line gives no second address. -/
theorem length_givenUris_le_one (h : parse words uriValue = .ok arguments) :
    (givenUris words).length ≤ 1 := by
  obtain ⟨draft, huri, -⟩ := draft_uri_of_parse h
  rw [← huri]
  cases draft.uri <;> simp

/-- The address of an accepted command line: the one that it gives, else the value of the variable,
else the standard one. -/
theorem parse_uri (h : parse words uriValue = .ok arguments) :
    arguments.uri = ((givenUris words).head? <|> uriValue).getD standardUri := by
  obtain ⟨draft, huri, rfl⟩ := draft_uri_of_parse h
  have hgiven : (givenUris words).head? = draft.uri := by
    rw [← huri]
    cases draft.uri <;> rfl
  rw [hgiven, Draft.finish]

end FailoverControl.CommandLine
