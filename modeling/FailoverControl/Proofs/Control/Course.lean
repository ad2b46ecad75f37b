import FailoverControl.Control.Inquiry
import Mathlib.Tactic.Common

/-!
# Courses of procedures

A course of a procedure is a list of exchanges that it may have with its surroundings, together
with the result that it then comes to. Courses know nothing of who answers, so what holds of every
course holds of every run, in whatever world it takes place.

The main statements: the courses of a sequence are the courses of its first part continued by those
of its second part (`course_bind_iff`, and `Task.course_bind_iff` for procedures that may fail), and
the run in a world is the one course whose answers that world gives (`run_eq_of_course`).
-/

set_option autoImplicit false

namespace FailoverControl.Control

open FailoverControl.Daemon (Call CallOutcome CallError)
open FailoverControl.Json (Value DecodeError)

variable {σ α β : Type}

/-- A list of exchanges that a procedure may have with its surroundings, and what it then comes
to. -/
inductive Procedure.Course : Procedure α → List Exchange → α → Prop
  | done (a : α) : Course (.done a) [] a
  | ask {request : Request} {next : request.Answer → Procedure α} {answer : request.Answer}
      {exchanges : List Exchange} {a : α} (rest : Course (next answer) exchanges a) :
      Course (.ask request next) (⟨request, answer⟩ :: exchanges) a

namespace Procedure

variable {exchanges : List Exchange} {a : α} {b : β}

/-- What is done exchanges nothing. -/
@[simp]
theorem course_done_iff {a' : α} :
    (Procedure.done a).Course exchanges a' ↔ exchanges = [] ∧ a' = a := by
  constructor
  · intro h
    cases h
    exact ⟨rfl, rfl⟩
  · rintro ⟨rfl, rfl⟩
    exact .done _

/-- A course begins with the first request and some answer to it. -/
theorem course_ask_iff {request : Request} {next : request.Answer → Procedure α} :
    (Procedure.ask request next).Course exchanges a ↔
      ∃ answer rest, (next answer).Course rest a ∧ exchanges = ⟨request, answer⟩ :: rest := by
  constructor
  · intro h
    cases h with
    | ask rest => exact ⟨_, _, rest, rfl⟩
  · rintro ⟨answer, rest, h, rfl⟩
    exact .ask h

/-- A request is one exchange and comes to its answer. -/
theorem course_request_iff {r : Request} {answer : r.Answer} :
    (request r).Course exchanges answer ↔ exchanges = [⟨r, answer⟩] := by
  simp only [request, course_ask_iff, course_done_iff]
  constructor
  · rintro ⟨answer', rest, ⟨rfl, rfl⟩, rfl⟩
    rfl
  · rintro rfl
    exact ⟨answer, [], ⟨rfl, rfl⟩, rfl⟩

/-- The courses of a sequence are the courses of its first part continued by those of its second
part. -/
theorem course_bind_iff {p : Procedure α} {f : α → Procedure β} :
    (p >>= f).Course exchanges b ↔
      ∃ first a second, p.Course first a ∧ (f a).Course second b ∧ exchanges = first ++ second := by
  induction p generalizing exchanges with
  | done a => simp
  | ask r next ih =>
    simp only [ask_bind, course_ask_iff, ih]
    constructor
    · rintro ⟨answer, _, ⟨first, a, second, h₁, h₂, rfl⟩, rfl⟩
      exact ⟨⟨r, answer⟩ :: first, a, second, ⟨answer, first, h₁, rfl⟩, h₂, rfl⟩
    · rintro ⟨_, a, second, ⟨answer, first, h₁, rfl⟩, h₂, rfl⟩
      exact ⟨answer, first ++ second, ⟨first, a, second, h₁, h₂, rfl⟩, rfl⟩

/-- Every run is a course. -/
theorem course_run (world : World σ) (p : Procedure α) (s : σ) :
    p.Course (p.run world s).exchanges (p.run world s).result := by
  induction p generalizing s with
  | done a => exact .done a
  | ask r next ih => exact .ask (ih (world.answer r s).1 (world.answer r s).2)

end Procedure

/-! ## Courses in a world -/

/-- A world in state `s` gives the answers of a list of exchanges, one after the other, and is then
in state `s'`. -/
def World.Replays (world : World σ) : (s : σ) → List Exchange → (s' : σ) → Prop
  | s, [], s' => s' = s
  | s, exchange :: rest, s' =>
    (world.answer exchange.request s).1 = exchange.answer ∧
      world.Replays (world.answer exchange.request s).2 rest s'

namespace World

/-- The answers of a run are those of its world. -/
theorem replays_run (world : World σ) (p : Procedure α) (s : σ) :
    world.Replays s (p.run world s).exchanges (p.run world s).state := by
  induction p generalizing s with
  | done a => exact rfl
  | ask r next ih => exact ⟨rfl, ih (world.answer r s).1 (world.answer r s).2⟩

end World

/-- The course whose answers a world gives is the run in that world. -/
theorem Procedure.run_eq_of_course {world : World σ} {p : Procedure α} {s s' : σ}
    {exchanges : List Exchange} {a : α} (h : p.Course exchanges a)
    (hworld : world.Replays s exchanges s') : p.run world s = ⟨a, exchanges, s'⟩ := by
  induction h generalizing s with
  | done a =>
    obtain rfl := hworld
    rfl
  | @ask r next answer rest a hrest ih =>
    have hanswer : (world.answer r s).1 = answer := hworld.1
    have hrun := ih hworld.2
    subst hanswer
    simp only [Procedure.run, hrun]

/-! ## Procedures that may fail -/

namespace Task

variable {ε δ : Type}

/-- A course of a procedure that may fail. -/
def Course (task : Task ε α) (exchanges : List Exchange) (result : Except ε α) : Prop :=
  Procedure.Course task.run exchanges result

variable {exchanges : List Exchange}

/-- A result exchanges nothing. -/
theorem course_pure_iff {a : α} {result : Except ε α} :
    Course (pure a) exchanges result ↔ exchanges = [] ∧ result = .ok a :=
  Procedure.course_done_iff

/-- A failure exchanges nothing. -/
theorem course_throw_iff {e : ε} {result : Except ε α} :
    Course (throw e) exchanges result ↔ exchanges = [] ∧ result = .error e :=
  Procedure.course_done_iff

/-- A sequence ends with the failure of its first part or goes on with its result. -/
theorem course_bind_iff {task : Task ε α} {f : α → Task ε β} {result : Except ε β} :
    Course (task >>= f) exchanges result ↔
      (∃ e, Course task exchanges (.error e) ∧ result = .error e) ∨
        ∃ first a second,
          Course task first (.ok a) ∧ Course (f a) second result ∧ exchanges = first ++ second := by
  unfold Course
  rw [ExceptT.run_bind, Procedure.course_bind_iff]
  constructor
  · rintro ⟨first, a | a, second, h₁, h₂, rfl⟩
    · obtain ⟨rfl, rfl⟩ := Procedure.course_done_iff.mp h₂
      exact .inl ⟨a, by rwa [List.append_nil], rfl⟩
    · exact .inr ⟨first, a, second, h₁, h₂, rfl⟩
  · rintro (⟨e, h, rfl⟩ | ⟨first, a, second, h₁, h₂, rfl⟩)
    · exact ⟨exchanges, .error e, [], h, .done _, (List.append_nil _).symm⟩
    · exact ⟨first, .ok a, second, h₁, h₂, rfl⟩

/-- A sequence that begins with a request that cannot fail. -/
theorem course_lift_bind_iff {r : Request} {f : r.Answer → Task ε β} {result : Except ε β} :
    Course (ExceptT.lift (Procedure.request r) >>= f) exchanges result ↔
      ∃ answer rest, Course (f answer) rest result ∧ exchanges = ⟨r, answer⟩ :: rest :=
  Procedure.course_ask_iff

/-- A call is one exchange and comes to its outcome. -/
theorem course_invoke_iff {call : Call} {outcome : CallOutcome} :
    Course (invoke call) exchanges outcome ↔ exchanges = [⟨.call call, outcome⟩] :=
  Procedure.course_request_iff (r := .call call)

/-- A log entry goes in front of what follows. -/
theorem course_note_bind_iff {level : Log.Level} {target message : String}
    {fields : List (String × String)} {f : Unit → Task ε β} {result : Except ε β} :
    Course (note level target message fields >>= f) exchanges result ↔
      ∃ rest, Course (f ()) rest result ∧
        exchanges = ⟨.log ⟨level, target, message, fields⟩, ()⟩ :: rest := by
  unfold note
  rw [course_lift_bind_iff]
  constructor
  · rintro ⟨_, rest, h, rfl⟩
    exact ⟨rest, h, rfl⟩
  · rintro ⟨rest, h, rfl⟩
    exact ⟨(), rest, h, rfl⟩

/-- Only the type of failures changes. -/
theorem course_mapFailure_iff {f : ε → δ} {task : Task ε α} {result : Except δ α} :
    Course (task.mapFailure f) exchanges result ↔
      ∃ inner, Course task exchanges inner ∧ result = inner.mapError f := by
  change (task.run >>= fun a => .done (a.mapError f)).Course exchanges result ↔ _
  simp only [Procedure.course_bind_iff, Procedure.course_done_iff]
  constructor
  · rintro ⟨first, inner, _, h, ⟨rfl, rfl⟩, rfl⟩
    exact ⟨inner, by rwa [List.append_nil], rfl⟩
  · rintro ⟨inner, h, rfl⟩
    exact ⟨exchanges, inner, [], h, ⟨rfl, rfl⟩, (List.append_nil _).symm⟩

end Task

end FailoverControl.Control
