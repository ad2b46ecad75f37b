import FailoverControl.Proofs.Operator.Consent

/-!
# Questions on failing output

Where output works, the lines that have not been read yet settle what a question shows, how it is
answered and which lines it leaves. On a sink that breaks somewhere the question shows as much of
this as the sink takes; unless that is all, it is declined, and no line is read that would not have
been read anyway. A sink that cannot be flushed is asked once and no line is read.

The main statement: `confirm_fails_closed`.
-/

set_option autoImplicit false

namespace FailoverControl.Operator

open FailoverControl.Text

/-! ## Sinks -/

namespace Sink

variable {sink : Sink} {bs : List UInt8}

/-- Writing does not change whether flushing fails. -/
@[simp]
theorem flushFails_write (bs : List UInt8) (sink : Sink) :
    (sink.write bs).flushFails = sink.flushFails := by
  unfold write
  split <;> rfl

/-- Two writes are as good as one. -/
theorem write_write (as bs : List UInt8) (sink : Sink) :
    (sink.write as).write bs = sink.write (as ++ bs) := by
  cases hroom : sink.room with
  | none => simp [write, hroom]
  | some room => simp [write, hroom, List.take_append, Nat.sub_sub]

/-- Behind a write that fits there is as much less room. -/
theorem fits_write (h : sink.fits bs.length = true) (count : Nat) :
    (sink.write bs).fits count = sink.fits (bs.length + count) := by
  cases hroom : sink.room with
  | none => simp [fits, write, hroom]
  | some room =>
    have hle : bs.length ≤ room := by simpa [fits, hroom] using h
    have hiff : count ≤ room - bs.length ↔ bs.length + count ≤ room := by omega
    simp [fits, write, hroom, hiff]

/-- Nothing more is taken behind a write that does not fit. -/
theorem write_append_of_not_fits (h : sink.fits bs.length = false) (more : List UInt8) :
    sink.write (bs ++ more) = sink.write bs := by
  cases hroom : sink.room with
  | none => simp [fits, hroom] at h
  | some room =>
    have hlt : room < bs.length := by simpa [fits, hroom] using h
    have htake : (bs ++ more).take room = bs.take room :=
      List.take_append_of_le_length (Nat.le_of_lt hlt)
    have hleft : room - (bs ++ more).length = room - bs.length := by
      rw [List.length_append]
      omega
    simp only [write, hroom, htake, hleft]

/-- What is longer than something without room has no room either. -/
theorem not_fits_of_le {count more : Nat} (h : sink.fits count = false) (hle : count ≤ more) :
    sink.fits more = false := by
  cases hroom : sink.room with
  | none => simp [fits, hroom] at h
  | some room =>
    have hlt : room < count := by simpa [fits, hroom] using h
    simpa [fits, hroom] using Nat.lt_of_lt_of_le hlt hle

end Sink

/-! ## What lines settle -/

/-- The answer that lines give to a question, and the lines behind it. -/
def answered : List (List UInt8) → Bool × List (List UInt8)
  | [] => (false, [])
  | line :: rest =>
    if Reply.ofLine line = .unclear then answered rest
    else (decide (Reply.ofLine line = .yes), rest)

/-- What a question shows until lines have answered it. -/
def shown (prompt : String) : List (List UInt8) → List UInt8
  | [] => bytes prompt ++ bytes "\n"
  | line :: rest =>
    if Reply.ofLine line = .unclear then
      bytes prompt ++ bytes invalidNotice ++ shown prompt rest
    else bytes prompt

/-- What a question shows for lines that decide nothing. -/
def refrain (prompt : String) (count : Nat) : List UInt8 :=
  (List.replicate count (bytes prompt ++ bytes invalidNotice)).flatten

section Lines

variable {before : List (List UInt8)} {line : List UInt8}

/-- An unclear line leaves the answer to the lines behind it. -/
theorem answered_cons_of_unclear (h : Reply.ofLine line = .unclear) (rest : List (List UInt8)) :
    answered (line :: rest) = answered rest := by
  rw [answered, if_pos h]

/-- An unclear line is followed by the notice and by the question again. -/
theorem shown_cons_of_unclear (prompt : String) (h : Reply.ofLine line = .unclear)
    (rest : List (List UInt8)) :
    shown prompt (line :: rest) = bytes prompt ++ bytes invalidNotice ++ shown prompt rest := by
  rw [shown, if_pos h]

/-- Lines that decide nothing are passed over. -/
theorem answered_append (h : ∀ l ∈ before, ¬ Decisive l) (rest : List (List UInt8)) :
    answered (before ++ rest) = answered rest := by
  induction before with
  | nil => rfl
  | cons unclear others ih =>
    obtain ⟨hunclear, hothers⟩ := List.forall_mem_cons.mp h
    rw [List.cons_append, answered_cons_of_unclear (ofLine_eq_unclear_iff.mpr hunclear),
      ih hothers]

/-- Each line that decides nothing makes the question be put once more. -/
theorem shown_append (prompt : String) (h : ∀ l ∈ before, ¬ Decisive l)
    (rest : List (List UInt8)) :
    shown prompt (before ++ rest) = refrain prompt before.length ++ shown prompt rest := by
  induction before with
  | nil => rfl
  | cons unclear others ih =>
    obtain ⟨hunclear, hothers⟩ := List.forall_mem_cons.mp h
    rw [List.cons_append, shown_cons_of_unclear prompt (ofLine_eq_unclear_iff.mpr hunclear),
      ih hothers, List.length_cons, refrain, refrain, List.replicate_succ, List.flatten_cons,
      List.append_assoc (bytes prompt ++ bytes invalidNotice)]

/-- A line that decides is the answer, and nothing behind it is read. -/
theorem answered_cons_of_decisive (h : Decisive line) (rest : List (List UInt8)) :
    answered (line :: rest) = (decide (Reply.ofLine line = .yes), rest) := by
  rw [answered, if_neg (mt ofLine_eq_unclear_iff.mp (not_not_intro h))]

/-- Before a line that decides only the question is shown. -/
theorem shown_cons_of_decisive (prompt : String) (h : Decisive line)
    (rest : List (List UInt8)) : shown prompt (line :: rest) = bytes prompt := by
  rw [shown, if_neg (mt ofLine_eq_unclear_iff.mp (not_not_intro h))]

end Lines

/-- What is left of the lines is the end of them. -/
theorem answered_suffix (lines : List (List UInt8)) : (answered lines).2 <:+ lines := by
  induction lines with
  | nil => exact List.suffix_refl _
  | cons line rest ih =>
    rw [answered]
    split
    · exact ih.trans (List.suffix_cons line rest)
    · exact List.suffix_cons line rest

/-! ## Questions -/

section Sinks

variable {prompt : String} {lines : List (List UInt8)} {sink : Sink}

/-- A question at a sink that can be flushed follows what the lines settle as far as the sink
goes. -/
structure Follows (prompt : String) (lines : List (List UInt8)) (sink : Sink)
    (run : Bool × Terminal) : Prop where
  shows : run.2.sink = sink.write (shown prompt lines)
  complete : sink.fits (shown prompt lines).length = true →
    run.1 = (answered lines).1 ∧ run.2.unread = (answered lines).2
  broken : sink.fits (shown prompt lines).length = false →
    run.1 = false ∧ (answered lines).2 <:+ run.2.unread ∧ run.2.unread <:+ lines

/-- What is shown begins with the prompt. -/
theorem exists_shown_eq (prompt : String) (lines : List (List UInt8)) :
    ∃ more, shown prompt lines = bytes prompt ++ more := by
  cases lines with
  | nil => exact ⟨_, rfl⟩
  | cons line rest =>
    rw [shown]
    split
    · exact ⟨_, List.append_assoc _ _ _⟩
    · exact ⟨[], (List.append_nil _).symm⟩

/-- A prompt that does not fit declines the question before anything is read. -/
theorem askLines_of_unable (h : sink.fits (bytes prompt).length = false) :
    askLines prompt lines sink = (false, ⟨lines, sink.write (bytes prompt)⟩) := by
  rw [askLines.eq_def]
  simp [h]

/-- A question that the sink has no room for follows what the lines settle. -/
theorem follows_of_unable (h : sink.fits (bytes prompt).length = false) :
    Follows prompt lines sink (askLines prompt lines sink) := by
  obtain ⟨more, hmore⟩ := exists_shown_eq prompt lines
  have hbroken : sink.fits (shown prompt lines).length = false :=
    Sink.not_fits_of_le h (by rw [hmore, List.length_append]; omega)
  rw [askLines_of_unable h]
  refine ⟨?_, fun hfits => ?_, fun _ => ⟨rfl, answered_suffix lines, List.suffix_refl lines⟩⟩
  · rw [hmore, Sink.write_append_of_not_fits h]
  · rw [hbroken] at hfits
    cases hfits

/-- Where the prompt can be shown, the first line decides unless it is unclear. -/
theorem askLines_cons (hprompt : sink.fits (bytes prompt).length = true)
    (hflush : sink.flushFails = false) (line : List UInt8) (rest : List (List UInt8)) :
    askLines prompt (line :: rest) sink =
      if Reply.ofLine line = .unclear then
        if (sink.write (bytes prompt)).fits (bytes invalidNotice).length then
          askLines prompt rest (sink.write (bytes prompt ++ bytes invalidNotice))
        else (false, ⟨rest, sink.write (bytes prompt ++ bytes invalidNotice)⟩)
      else (decide (Reply.ofLine line = .yes), ⟨rest, sink.write (bytes prompt)⟩) := by
  rw [askLines]
  simp only [hprompt, hflush, Bool.not_true, Bool.or_false, Bool.false_eq_true, if_false,
    Sink.write_write]
  cases Reply.ofLine line <;> simp

/-- A line that decides nothing is followed by its notice and the question behind it. -/
theorem follows_of_unclear {line : List UInt8} (hunclear : Reply.ofLine line = .unclear)
    (hnotice : sink.fits (bytes prompt ++ bytes invalidNotice).length = true)
    {run : Bool × Terminal}
    (h : Follows prompt lines (sink.write (bytes prompt ++ bytes invalidNotice)) run) :
    Follows prompt (line :: lines) sink run := by
  have hshown := shown_cons_of_unclear prompt hunclear lines
  have hanswered := answered_cons_of_unclear hunclear lines
  have hfits : sink.fits (shown prompt (line :: lines)).length =
      (sink.write (bytes prompt ++ bytes invalidNotice)).fits (shown prompt lines).length := by
    simp only [Sink.fits_write hnotice, hshown, List.length_append]
  refine ⟨?_, fun hfit => ?_, fun hbroken => ?_⟩
  · rw [h.shows, Sink.write_write, hshown]
  · rw [hanswered]
    exact h.complete (hfits ▸ hfit)
  · obtain ⟨hanswer, hread, hleft⟩ := h.broken (hfits ▸ hbroken)
    rw [hanswered]
    exact ⟨hanswer, hread, hleft.trans (List.suffix_cons line lines)⟩

/-- A notice that does not fit declines the question. -/
theorem follows_of_unnoticed {line : List UInt8} (hunclear : Reply.ofLine line = .unclear)
    (hnotice : sink.fits (bytes prompt ++ bytes invalidNotice).length = false) :
    Follows prompt (line :: lines) sink
      (false, ⟨lines, sink.write (bytes prompt ++ bytes invalidNotice)⟩) := by
  have hshown := shown_cons_of_unclear prompt hunclear lines
  have hanswered := answered_cons_of_unclear hunclear lines
  have hbroken : sink.fits (shown prompt (line :: lines)).length = false :=
    Sink.not_fits_of_le hnotice
      (hshown ▸ (List.prefix_append (bytes prompt ++ bytes invalidNotice) _).length_le)
  refine ⟨?_, fun hfit => ?_, fun _ => ⟨rfl, ?_, List.suffix_cons line lines⟩⟩
  · rw [hshown, Sink.write_append_of_not_fits hnotice]
  · rw [hbroken] at hfit
    cases hfit
  · rw [hanswered]
    exact answered_suffix lines

/-- A line that decides something is the last one to be read. -/
theorem follows_of_decisive {line : List UInt8} (hdecisive : Decisive line)
    (hprompt : sink.fits (bytes prompt).length = true) :
    Follows prompt (line :: lines) sink
      (decide (Reply.ofLine line = .yes), ⟨lines, sink.write (bytes prompt)⟩) := by
  have hshown := shown_cons_of_decisive prompt hdecisive lines
  refine ⟨?_, fun _ => ?_, fun hbroken => ?_⟩
  · rw [hshown]
  · rw [answered_cons_of_decisive hdecisive]
    exact ⟨rfl, rfl⟩
  · rw [hshown, hprompt] at hbroken
    cases hbroken

/-- Every question at a sink that can be flushed follows what the lines settle. -/
theorem follows_askLines (prompt : String) (lines : List (List UInt8)) {sink : Sink}
    (hflush : sink.flushFails = false) :
    Follows prompt lines sink (askLines prompt lines sink) := by
  induction lines generalizing sink with
  | nil =>
    cases hprompt : sink.fits (bytes prompt).length with
    | false => exact follows_of_unable hprompt
    | true =>
      have hrun : askLines prompt [] sink =
          (false, ⟨[], sink.write (bytes prompt ++ bytes "\n")⟩) := by
        rw [askLines, ← Sink.write_write]
        simp [hprompt, hflush]
      rw [hrun]
      exact ⟨rfl, fun _ => ⟨rfl, rfl⟩, fun _ => ⟨rfl, List.suffix_refl _, List.suffix_refl _⟩⟩
  | cons line rest ih =>
    cases hprompt : sink.fits (bytes prompt).length with
    | false => exact follows_of_unable hprompt
    | true =>
      rw [askLines_cons hprompt hflush, Sink.fits_write hprompt, ← List.length_append]
      by_cases hdecisive : Decisive line
      · rw [if_neg (mt ofLine_eq_unclear_iff.mp (not_not_intro hdecisive))]
        exact follows_of_decisive hdecisive hprompt
      · have hunclear := ofLine_eq_unclear_iff.mpr hdecisive
        rw [if_pos hunclear]
        cases hnotice : sink.fits (bytes prompt ++ bytes invalidNotice).length with
        | false => exact follows_of_unnoticed hunclear hnotice
        | true => exact follows_of_unclear hunclear hnotice (ih (by simpa using hflush))

/-- Where flushing fails, the question is declined behind the prompt. -/
theorem askLines_of_flushFails (h : sink.flushFails = true) :
    askLines prompt lines sink = (false, ⟨lines, sink.write (bytes prompt)⟩) := by
  rw [askLines.eq_def]
  simp [h]

/-- Without limits a question shows and takes just what the lines settle. -/
theorem askLines_unlimited (prompt : String) (lines : List (List UInt8)) :
    askLines prompt lines .unlimited =
      ((answered lines).1, ⟨(answered lines).2, ⟨shown prompt lines, none, false⟩⟩) := by
  have hfollows : Follows prompt lines .unlimited (askLines prompt lines .unlimited) :=
    follows_askLines prompt lines rfl
  obtain ⟨hanswer, hunread⟩ := hfollows.complete rfl
  have hsink : (askLines prompt lines .unlimited).2.sink = ⟨shown prompt lines, none, false⟩ :=
    hfollows.shows
  rw [← hanswer, ← hunread, ← hsink]

/-- With room for so many bytes a question shows as many of what it would show, and nothing else
differs when that is all of them. -/
theorem Follows.of_room {run : Bool × Terminal} {room : Nat} (hroom : sink.room = some room)
    (h : Follows prompt lines sink run) :
    run.2.sink.taken = sink.taken ++ (shown prompt lines).take room ∧
      run.2.sink.room = some (room - (shown prompt lines).length) ∧
      ((shown prompt lines).length ≤ room →
        run.1 = (answered lines).1 ∧ run.2.unread = (answered lines).2) ∧
      (room < (shown prompt lines).length →
        run.1 = false ∧ (answered lines).2 <:+ run.2.unread ∧ run.2.unread <:+ lines) := by
  have hfits : sink.fits (shown prompt lines).length =
      decide ((shown prompt lines).length ≤ room) := by
    simp only [Sink.fits, hroom, Option.all_some]
  refine ⟨?_, ?_, fun hle => ?_, fun hlt => ?_⟩
  · simp only [h.shows, Sink.write, hroom]
  · simp only [h.shows, Sink.write, hroom]
  · exact h.complete (hfits.trans (decide_eq_true hle))
  · exact h.broken (hfits.trans (decide_eq_false (Nat.not_le_of_lt hlt)))

/-- Whatever takes the question, its answer is yes only behind everything that it shows. -/
theorem shown_of_askLines (h : (askLines prompt lines sink).1 = true) :
    (askLines prompt lines sink).2.sink.taken = sink.taken ++ shown prompt lines := by
  cases hflush : sink.flushFails with
  | true =>
    rw [askLines_of_flushFails hflush] at h
    cases h
  | false =>
    have hfollows := follows_askLines prompt lines hflush
    cases hfits : sink.fits (shown prompt lines).length with
    | false =>
      rw [(hfollows.broken hfits).1] at h
      cases h
    | true => rw [hfollows.shows, Sink.taken_write_of_fits hfits]

/-- What a question has shown when it is confirmed: a notice for every line that decides nothing,
and itself behind each of them and in front. -/
theorem exists_shown_of_confirm {terminal : Terminal}
    (h : (terminal.confirm prompt).1 = true) :
    ∃ before line after s, terminal.unread = before ++ line :: after ∧
      (∀ l ∈ before, ¬ Decisive l) ∧ ofBytes? line = some s ∧ plainWord s ∈ ["y", "yes"] ∧
      (terminal.confirm prompt).2.sink.taken =
        terminal.sink.taken ++ (refrain prompt before.length ++ bytes prompt) := by
  obtain ⟨before, line, after, s, hlines, hbefore, htext, hword⟩ := consents_of_confirm h
  have hdecisive : Decisive line := by
    intro s' htext'
    obtain rfl := Option.some.inj (htext.symm.trans htext')
    exact List.mem_append_left ["n", "no"] hword
  have hshown : shown prompt terminal.unread = refrain prompt before.length ++ bytes prompt := by
    rw [hlines, shown_append prompt hbefore, shown_cons_of_decisive prompt hdecisive]
  have htaken : (terminal.confirm prompt).2.sink.taken =
      terminal.sink.taken ++ shown prompt terminal.unread := shown_of_askLines h
  exact ⟨before, line, after, s, hlines, hbefore, htext, hword, hshown ▸ htaken⟩

end Sinks

/-- A question at a terminal whose output breaks shows what it would show, up to where it breaks,
and is declined there without reading on; where flushing fails it is declined and nothing is read.
So it is confirmed only once every prompt and every notice up to the deciding line has been taken
completely. -/
theorem confirm_fails_closed (terminal : Terminal) (prompt : String) :
    let run := terminal.confirm prompt
    let ideal := { terminal with sink := .unlimited }.confirm prompt
    let written := ideal.2.sink.taken
    (∀ room, terminal.sink.room = some room → terminal.sink.flushFails = false →
        run.2.sink.taken = terminal.sink.taken ++ written.take room ∧
          run.2.sink.room = some (room - written.length) ∧
          (written.length ≤ room → run.1 = ideal.1 ∧ run.2.unread = ideal.2.unread) ∧
          (room < written.length → run.1 = false ∧ ideal.2.unread <:+ run.2.unread ∧
            run.2.unread <:+ terminal.unread)) ∧
      (terminal.sink.flushFails = true → run.1 = false ∧ run.2.unread = terminal.unread) ∧
      (run.1 = true → ∃ before line after s, terminal.unread = before ++ line :: after ∧
        (∀ l ∈ before, ¬ Decisive l) ∧ ofBytes? line = some s ∧ plainWord s ∈ ["y", "yes"] ∧
        run.2.sink.taken =
          terminal.sink.taken ++ (refrain prompt before.length ++ bytes prompt)) := by
  intro run ideal written
  have hideal : ideal = ((answered terminal.unread).1,
      ⟨(answered terminal.unread).2, ⟨shown prompt terminal.unread, none, false⟩⟩) :=
    askLines_unlimited prompt terminal.unread
  refine ⟨fun room hroom hflush => ?_, fun hflush => ?_, exists_shown_of_confirm⟩
  · have hrun : Follows prompt terminal.unread terminal.sink run := follows_askLines _ _ hflush
    simp only [written, hideal]
    exact hrun.of_room hroom
  · have hrun : run = (false, ⟨terminal.unread, terminal.sink.write (bytes prompt)⟩) :=
      askLines_of_flushFails hflush
    rw [hrun]
    exact ⟨rfl, rfl⟩

/-- The notice does not fit behind the first line, so the yes on the second is never read. -/
example :
    (Terminal.ofInput (bytes "hm\ny\n") ⟨[], some 9, false⟩).confirm "Go? " =
      (false, ⟨[bytes "y\n"], ⟨bytes "Go? Inval", some 0, false⟩⟩) := by
  decide +kernel

end FailoverControl.Operator
