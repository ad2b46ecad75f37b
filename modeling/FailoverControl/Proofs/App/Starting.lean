import FailoverControl.App.Launch
import FailoverControl.Proofs.Settings.Assignments

/-!
# Which launches start

A launch starts when its command line is read and its file of variables makes no assignment that the
system does not take. Such an assignment crashes the program before it has turned to anybody; the
only ones are those that would set a variable to a value with a NUL.

The main statements: what a variable stands for once a launch has started (`Launch.get?_loaded`),
and which launches start (`start_eq_ok_iff`) and which crash (`exists_unsettable_iff`).
-/

set_option autoImplicit false

namespace FailoverControl.App

open FailoverControl.CommandLine (Arguments)
open FailoverControl.Settings (Unsettable)

variable {launch : Launch}

/-! ## Files of variables -/

namespace Launch

/-- The assignments of the file of variables. -/
def assignments (launch : Launch) : List (String × String) :=
  launch.variableFile.elim [] fun file => launch.environment.assignments file.content

/-- What a variable stands for when the file counts: its value in the environment of the process,
else the one that the file assigns to it first. -/
def valueOf? (launch : Launch) (name : String) : Option String :=
  launch.environment.get? name <|> launch.assignments.lookup name

/-- The file of variables counts behind the environment of the process. -/
theorem get?_loaded (hsettable : launch.unsettable? = none) (name : String) :
    launch.loaded.1.get? name = launch.valueOf? name := by
  unfold unsettable? at hsettable
  unfold loaded valueOf? assignments
  cases hfile : launch.variableFile with
  | none => simp
  | some file =>
    rw [hfile] at hsettable
    refine Settings.Environment.get?_load (fun assignment hstuck => ?_) name
    simp only [hstuck] at hsettable
    cases hsettable

/-- A file of variables is in the way exactly when a variable that is not set gets a value with a
NUL by the first assignment of the file to it. -/
theorem exists_unsettable?_iff :
    (∃ assignment, launch.unsettable? = some assignment) ↔
      ∃ name value, launch.environment.get? name = none ∧
        launch.assignments.lookup name = some value ∧ '\x00' ∈ value.toList := by
  unfold unsettable? assignments
  cases launch.variableFile with
  | none => simp
  | some file =>
    refine Iff.trans ?_ (@Settings.Environment.stuck_iff launch.environment file.content)
    simp only
    cases (launch.environment.load file.content).2 <;> simp

end Launch

/-! ## Launches -/

/-- A launch starts when its command line is read and nothing in its file of variables is in the
way. -/
theorem start_of_parse {arguments : Arguments}
    (hparse : CommandLine.parse launch.arguments launch.uriValue = .ok arguments)
    (hsettable : launch.unsettable? = none) : launch.start = .ok (launch.settled arguments) := by
  rw [Launch.start, hparse, hsettable]

/-- An assignment that is not taken is in the way of a launch whose command line is read. -/
theorem start_of_unsettable {arguments : Arguments} {assignment : Unsettable}
    (hparse : CommandLine.parse launch.arguments launch.uriValue = .ok arguments)
    (hunsettable : launch.unsettable? = some assignment) :
    launch.start = .error (.unsettable assignment) := by
  rw [Launch.start, hparse, hunsettable]

/-- A launch that starts has read its command line and its file of variables and settled the
rest. -/
theorem start_eq_ok_iff {startup : Startup} :
    launch.start = .ok startup ↔
      ∃ arguments, CommandLine.parse launch.arguments launch.uriValue = .ok arguments ∧
        launch.unsettable? = none ∧ launch.settled arguments = startup := by
  unfold Launch.start
  cases CommandLine.parse launch.arguments launch.uriValue <;>
    cases launch.unsettable? <;> simp

/-- A launch crashes exactly when its command line is read and its file of variables sets a variable
to a value with a NUL. -/
theorem exists_unsettable_iff :
    (∃ assignment, launch.start = .error (.unsettable assignment)) ↔
      ∃ arguments name value,
        CommandLine.parse launch.arguments launch.uriValue = .ok arguments ∧
          launch.environment.get? name = none ∧
          launch.assignments.lookup name = some value ∧ '\x00' ∈ value.toList := by
  have hfile := @Launch.exists_unsettable?_iff launch
  unfold Launch.start
  cases CommandLine.parse launch.arguments launch.uriValue with
  | error ending => simp
  | ok arguments =>
    refine Iff.trans ?_ (hfile.trans
      ⟨fun ⟨name, value, h⟩ => ⟨arguments, name, value, rfl, h⟩,
        fun ⟨_, name, value, _, h⟩ => ⟨name, value, h⟩⟩)
    cases launch.unsettable? <;> simp

end FailoverControl.App
