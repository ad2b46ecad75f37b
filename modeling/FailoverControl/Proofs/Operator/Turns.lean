import FailoverControl.Proofs.Operator.Questions
import FailoverControl.Proofs.Text.ByteLines

/-!
# Questions one after the other

A question at a terminal whose output works takes the unread lines up to the first one that is no
text or a plain yes or no, puts itself again behind each of the others, and leaves the rest. When no
line decides it takes all of them and is declined on a line of its own. So questions that follow
each other take consecutive pieces of the input, each from the line behind the one that decided the
question before.

The main statement: `questions_settled_by_lines`.
-/

set_option autoImplicit false

namespace FailoverControl.Operator

open FailoverControl.Text

/-! ## One question -/

/-- What a question comes to: the lines that it takes, its answer, and what it shows. -/
structure Turn where
  consumed : List (List UInt8)
  answer : Bool
  shown : List UInt8

/-- How unread lines settle a question, and the lines that they leave. -/
inductive Turn.Settled (prompt : String) : Turn → List (List UInt8) → Prop
  /-- The first line that decides is the last to be taken. -/
  | decided {before after : List (List UInt8)} {line : List UInt8} {answer : Bool}
      (hbefore : ∀ l ∈ before, ¬ Decisive l) (hline : Decisive line)
      (hanswer : answer = true ↔ ∃ s, ofBytes? line = some s ∧ plainWord s ∈ ["y", "yes"]) :
      Settled prompt
        ⟨before ++ [line], answer, refrain prompt before.length ++ bytes prompt⟩ after
  /-- No line decides. -/
  | exhausted {lines : List (List UInt8)} (hlines : ∀ l ∈ lines, ¬ Decisive l) :
      Settled prompt
        ⟨lines, false, refrain prompt lines.length ++ (bytes prompt ++ bytes "\n")⟩ []

/-- Either a line is the first that decides something, or none does. -/
theorem exists_first_decisive (lines : List (List UInt8)) :
    (∃ before line after, lines = before ++ line :: after ∧ (∀ l ∈ before, ¬ Decisive l) ∧
        Decisive line) ∨
      ∀ l ∈ lines, ¬ Decisive l := by
  classical
  cases hfind : lines.find? (fun l => decide (Decisive l)) with
  | none => exact .inr (by simpa using hfind)
  | some line =>
    obtain ⟨hline, before, after, hlines, hbefore⟩ := List.find?_eq_some_iff_append.mp hfind
    exact .inl ⟨before, line, after, hlines, by simpa using hbefore, by simpa using hline⟩

/-- All lines settle a question somehow. -/
theorem exists_settled (prompt : String) (lines : List (List UInt8)) :
    ∃ (turn : Turn) (left : List (List UInt8)), turn.Settled prompt left ∧
      lines = turn.consumed ++ left ∧ answered lines = (turn.answer, left) ∧
      shown prompt lines = turn.shown := by
  rcases exists_first_decisive lines with ⟨before, line, after, rfl, hbefore, hline⟩ | hlines
  · have hanswer : decide (Reply.ofLine line = .yes) = true ↔
        ∃ s, ofBytes? line = some s ∧ plainWord s ∈ ["y", "yes"] := by
      rw [decide_eq_true_iff, ofLine_eq_yes_iff]
    refine ⟨_, after, .decided hbefore hline hanswer, List.append_cons before line after, ?_, ?_⟩
    · rw [answered_append hbefore, answered_cons_of_decisive hline]
    · rw [shown_append prompt hbefore, shown_cons_of_decisive prompt hline]
  · have hanswered := answered_append hlines []
    have hshown := shown_append prompt hlines []
    rw [List.append_nil] at hanswered hshown
    exact ⟨_, [], .exhausted hlines, (List.append_nil lines).symm, hanswered, hshown⟩

/-- A sink that works takes what is written, and nothing else about it changes. -/
theorem Sink.Works.write_eq {sink : Sink} (h : sink.Works) (bs : List UInt8) :
    sink.write bs = { sink with taken := sink.taken ++ bs } := by
  simp only [Sink.write, h.1]

variable {terminal : Terminal}

/-- A question at a terminal whose output works is settled by the lines that have not been read
yet. -/
theorem confirm_settled (hsink : terminal.sink.Works) (prompt : String) :
    ∃ (turn : Turn) (left : List (List UInt8)), turn.Settled prompt left ∧
      terminal.unread = turn.consumed ++ left ∧
      terminal.confirm prompt = (turn.answer, ⟨left, terminal.sink.write turn.shown⟩) := by
  obtain ⟨turn, left, hsettled, hunread, hanswered, hshown⟩ :=
    exists_settled prompt terminal.unread
  have hfollows : Follows prompt terminal.unread terminal.sink (terminal.confirm prompt) :=
    follows_askLines prompt terminal.unread hsink.2
  obtain ⟨hanswer, hleft⟩ := hfollows.complete (hsink.fits _)
  simp only [hanswered] at hanswer hleft
  refine ⟨turn, left, hsettled, hunread, ?_⟩
  rw [← hanswer, ← hleft, ← hshown, ← hfollows.shows]

/-! ## Several questions -/

/-- Puts questions one after the other. -/
def Terminal.confirmAll : List String → Terminal → List Bool × Terminal
  | [], terminal => ([], terminal)
  | prompt :: prompts, terminal =>
    let (answer, next) := terminal.confirm prompt
    let (answers, last) := next.confirmAll prompts
    (answer :: answers, last)

/-- Questions that unread lines settle one after the other, each by the lines that those before it
have left; and the lines that all of them leave. -/
inductive Dialogue : List String → List Turn → List (List UInt8) → List (List UInt8) → Prop
  | done {lines : List (List UInt8)} : Dialogue [] [] lines lines
  | turn {prompt : String} {prompts : List String} {turn : Turn} {turns : List Turn}
      {rest left : List (List UInt8)} (hturn : turn.Settled prompt rest)
      (hrest : Dialogue prompts turns rest left) :
      Dialogue (prompt :: prompts) (turn :: turns) (turn.consumed ++ rest) left

/-- What the questions take are consecutive pieces of the lines. -/
theorem Dialogue.consumed_append {prompts : List String} {turns : List Turn}
    {lines left : List (List UInt8)} (h : Dialogue prompts turns lines left) :
    turns.flatMap Turn.consumed ++ left = lines := by
  induction h with
  | done => rfl
  | turn _ _ ih => rw [List.flatMap_cons, List.append_assoc, ih]

/-- Questions in a row are a dialogue, each with the lines that the ones before it have left. -/
theorem confirmAll_dialogue (hsink : terminal.sink.Works) (prompts : List String) :
    ∃ turns left, Dialogue prompts turns terminal.unread left ∧
      terminal.confirmAll prompts =
        (turns.map Turn.answer, ⟨left, terminal.sink.write (turns.flatMap Turn.shown)⟩) := by
  induction prompts generalizing terminal with
  | nil =>
    refine ⟨[], terminal.unread, .done, ?_⟩
    rw [List.flatMap_nil, hsink.write_eq, List.append_nil]
    rfl
  | cons prompt prompts ih =>
    obtain ⟨turn, rest, hturn, hunread, hconfirm⟩ := confirm_settled hsink prompt
    have hnext : (Terminal.mk rest (terminal.sink.write turn.shown)).sink.Works :=
      hsink.write turn.shown
    obtain ⟨turns, left, hrest, hrun⟩ := ih hnext
    refine ⟨turn :: turns, left, hunread ▸ .turn hturn hrest, ?_⟩
    simp only [Terminal.confirmAll, hconfirm, hrun, Sink.write_write, List.map_cons,
      List.flatMap_cons]

/-- Every question over some input is settled by its lines, which are what is between line feeds: it
takes those up to the first that decides, or all of them, shows itself once for each of them that
decides nothing and once more, and leaves the bytes behind them. Questions one after the other take
consecutive pieces of the input, each from the line behind the one that decided the question
before. -/
theorem questions_settled_by_lines (input : List UInt8) {sink : Sink} (hsink : sink.Works) :
    (splitLines input).flatten = input ∧ WellSplit (splitLines input) ∧
      (∀ prompt, ∃ (turn : Turn) (left : List (List UInt8)), turn.Settled prompt left ∧
        splitLines input = turn.consumed ++ left ∧
        (Terminal.ofInput input sink).confirm prompt =
          (turn.answer,
            Terminal.ofInput left.flatten { sink with taken := sink.taken ++ turn.shown })) ∧
      ∀ prompts, ∃ turns left, Dialogue prompts turns (splitLines input) left ∧
        turns.flatMap Turn.consumed ++ left = splitLines input ∧
        (Terminal.ofInput input sink).confirmAll prompts =
          (turns.map Turn.answer,
            Terminal.ofInput left.flatten
              { sink with taken := sink.taken ++ turns.flatMap Turn.shown }) := by
  obtain ⟨hflatten, hsplit⟩ := splitLines_eq_iff.mp (Eq.refl (splitLines input))
  have hworks : (Terminal.ofInput input sink).sink.Works := hsink
  refine ⟨hflatten, hsplit, fun prompt => ?_, fun prompts => ?_⟩
  · obtain ⟨turn, left, hsettled, hlines, hconfirm⟩ := confirm_settled hworks prompt
    refine ⟨turn, left, hsettled, hlines, ?_⟩
    rw [hconfirm, Terminal.ofInput, Terminal.ofInput, splitLines_flatten_of_append hlines,
      hsink.write_eq]
  · obtain ⟨turns, left, hdialogue, hrun⟩ := confirmAll_dialogue hworks prompts
    have hlines := hdialogue.consumed_append
    refine ⟨turns, left, hdialogue, hlines, ?_⟩
    rw [hrun, Terminal.ofInput, Terminal.ofInput, splitLines_flatten_of_append hlines.symm,
      hsink.write_eq]

/-- Of two questions the first passes over the line that says neither yes nor no, and the second
begins behind the yes, on a line that does not end. -/
theorem questions_settled_by_lines_twice :
    Sink.unlimited.Works ∧
      ∃ turns : List Turn,
        Dialogue ["a? ", "b? "] turns [[119, 10], [32, 89, 10], [110]] [] ∧
          turns.map Turn.answer = [true, false] ∧
          turns.flatMap Turn.shown = bytes "a? Invalid input\na? b? " := by
  have hworks : Sink.unlimited.Works := ⟨rfl, rfl⟩
  obtain ⟨turns, left, hdialogue, hlines, hrun⟩ :=
    (questions_settled_by_lines [119, 10, 32, 89, 10, 110] hworks).2.2.2 ["a? ", "b? "]
  have hask : (Terminal.ofInput [119, 10, 32, 89, 10, 110] .unlimited).confirmAll ["a? ", "b? "] =
      ([true, false], ⟨[], { Sink.unlimited with taken := bytes "a? Invalid input\na? b? " }⟩) := by
    decide +kernel
  rw [hask, Terminal.ofInput, splitLines_flatten_of_append hlines.symm, Prod.mk.injEq,
    Terminal.mk.injEq, Sink.mk.injEq] at hrun
  obtain ⟨hanswers, rfl, hshown, -⟩ := hrun
  exact ⟨hworks, turns, hdialogue, hanswers.symm, hshown.symm⟩

end FailoverControl.Operator
