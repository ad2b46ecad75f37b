import FailoverControl.Daemon.Call
import FailoverControl.Log.Entry

/-!
# Procedures

A procedure asks its surroundings for one thing after the other (a call of the daemon, a
confirmation, a reboot, …) and goes on with the answer. What is asked next may depend on all answers
so far, but not on who gives them: the same procedure runs against every world. A run keeps the
list of exchanges in the order in which they happened.

The main statements: procedures form a lawful monad, and the run of a sequence is the run of its
first part followed by the run of its second part.
-/

set_option autoImplicit false

namespace FailoverControl.Control

open FailoverControl.Daemon (Call CallOutcome)
open FailoverControl.Host (IoError)

/-- One thing that a procedure asks its surroundings for. -/
inductive Request where
  /-- Calls the daemon. -/
  | call (call : Call)
  /-- Reads the serial number of this node. -/
  | serial
  /-- Shows a warning. -/
  | warn (text : String)
  /-- Asks the operator a question. -/
  | confirm (prompt : String)
  /-- Starts a reboot of this node. -/
  | reboot
  /-- Writes a log entry. -/
  | log (entry : Log.Entry)

/-- What a request is answered with. -/
abbrev Request.Answer : Request → Type
  | .call _ => CallOutcome
  | .serial => Except IoError String
  | .warn _ => Unit
  | .confirm _ => Bool
  | .reboot => Except IoError Unit
  | .log _ => Unit

/-- A procedure either is done or asks for something and goes on with the answer. -/
inductive Procedure (α : Type) where
  | done (result : α)
  | ask (request : Request) (next : request.Answer → Procedure α)

namespace Procedure

variable {α β : Type}

/-- Goes on with the result of a procedure. -/
def bind : Procedure α → (α → Procedure β) → Procedure β
  | .done a, f => f a
  | .ask request next, f => .ask request fun answer => (next answer).bind f

instance : Monad Procedure where
  pure := .done
  bind := bind

/-- A procedure that asks for nothing is done at once. -/
@[simp]
theorem pure_eq (a : α) : (pure a : Procedure α) = .done a := rfl

/-- What follows a procedure that is done follows at once. -/
@[simp]
theorem done_bind (a : α) (f : α → Procedure β) : (Procedure.done a >>= f) = f a := rfl

/-- What follows a procedure follows the answers to what it asks for first. -/
@[simp]
theorem ask_bind (request : Request) (next : request.Answer → Procedure α)
    (f : α → Procedure β) :
    (Procedure.ask request next >>= f) = .ask request fun answer => next answer >>= f := rfl

instance : LawfulMonad Procedure := LawfulMonad.mk' Procedure
  (fun p => by
    induction p with
    | done a => rfl
    | ask request next ih => exact congrArg (Procedure.ask request) (funext ih))
  (fun _ _ => rfl)
  (fun p f g => by
    induction p with
    | done a => rfl
    | ask request next ih => exact congrArg (Procedure.ask request) (funext ih))

/-- The procedure that asks for one thing and returns the answer. -/
def request (r : Request) : Procedure r.Answer :=
  .ask r .done

/-- Interprets every request in a monad. -/
def interpret {m : Type → Type} [Monad m] (answer : (r : Request) → m r.Answer) :
    Procedure α → m α
  | .done a => pure a
  | .ask r next => answer r >>= fun a => interpret answer (next a)

end Procedure

/-- Surroundings that answer every request, with a state of their own. -/
structure World (σ : Type) where
  answer : (r : Request) → σ → r.Answer × σ

/-- A request together with its answer. -/
structure Exchange where
  request : Request
  answer : request.Answer

/-- What comes of running a procedure: its result, the exchanges in order, and the state of the
surroundings afterwards. -/
structure Run (σ α : Type) where
  result : α
  exchanges : List Exchange
  state : σ

/-- Runs a procedure in a world. -/
def Procedure.run {σ α : Type} (world : World σ) : Procedure α → σ → Run σ α
  | .done a, state => ⟨a, [], state⟩
  | .ask r next, state =>
    let (answer, state) := world.answer r state
    let rest := (next answer).run world state
    { rest with exchanges := ⟨r, answer⟩ :: rest.exchanges }

/-- The run of a sequence is the run of its first part followed by the run of its second part. -/
theorem Procedure.run_bind {σ α β : Type} (world : World σ) (p : Procedure α)
    (f : α → Procedure β) (state : σ) :
    (p >>= f).run world state =
      let first := p.run world state
      let second := (f first.result).run world first.state
      { second with exchanges := first.exchanges ++ second.exchanges } := by
  induction p generalizing state with
  | done a => rfl
  | ask r next ih =>
    rw [ask_bind]
    simp only [Procedure.run, ih, List.cons_append]

/-- The calls of the daemon among exchanges. -/
def calls (exchanges : List Exchange) : List Call :=
  exchanges.filterMap fun exchange =>
    match exchange.request with
    | .call call => some call
    | _ => none

end FailoverControl.Control
