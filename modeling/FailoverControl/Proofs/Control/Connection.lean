import FailoverControl.Proofs.Control.Attendants
import FailoverControl.Proofs.Control.Calls
import FailoverControl.Proofs.Rpc.Answered
import FailoverControl.Rpc.Network

/-!
# Commands over a connection

A command that runs over a connection to a server comes to what it comes to over the gateway whose
answers the server sends. The server may send frames that calls pass over whenever it likes, as long
as it answers every request before a deadline. Attendants may keep a record of everything that they
are asked, so ending in the same state means that the same warnings were shown, the same questions
put and the same reboots attempted, in the same order.

The main statement: over a fresh connection to such a server the run has the same result, leaves the
attendants in the same state, and has sent the calls of the gateway as requests that are numbered
from one on (`dispatch_over_connection`).
-/

set_option autoImplicit false

namespace FailoverControl.Control

open FailoverControl.Daemon
open FailoverControl.Json (Value)
open FailoverControl.Rpc (Answered Client Fault Reaction Server)

variable {σ γ δ α β : Type}

/-! ## Runs over a connection -/

/-- What runs over a connection among attendants; it may be stopped. -/
abbrev ConnectionM (σ δ : Type) : Type → Type := ExceptT Halt (StateM (Client σ × δ))

/-- Calls the daemon over the connection. -/
def callOver (call : Call) : ConnectionM σ δ CallOutcome := do
  let (client, d) ← get
  let invocation ← ExceptT.mk (pure (Daemon.invoke call client))
  set (invocation.client, d)
  return invocation.outcome

/-- Turns to the attendants. -/
def attended (act : δ → α × δ) : ConnectionM σ δ α := do
  let (client, d) ← get
  let (a, d) := act d
  set (client, d)
  return a

/-- Answers a request over a connection among attendants. -/
def Attendants.answerOver (attendants : Attendants δ) : (r : Request) → ConnectionM σ δ r.Answer
  | .call call => callOver call
  | .serial => attended attendants.serial
  | .warn text => attended fun d => ((), attendants.warn text d)
  | .confirm prompt => attended (attendants.confirm prompt)
  | .reboot => attended attendants.reboot
  | .log _ => pure ()

/-- Runs a procedure over a connection among attendants. -/
def Procedure.runOver (attendants : Attendants δ) (procedure : Procedure α) (client : Client σ)
    (d : δ) : Except Halt α × Client σ × δ :=
  (procedure.interpret attendants.answerOver).run.run (client, d)

/-- What may be stopped goes on, unless it is stopped, in the state that its first part leaves. -/
theorem run_bind {ε τ : Type} {x : ExceptT ε (StateM τ) α} {f : α → ExceptT ε (StateM τ) β}
    {s : τ} :
    (x >>= f).run.run s = match (x.run.run s).1 with
      | .ok a => (f a).run.run (x.run.run s).2
      | .error e => (.error e, (x.run.run s).2) := by
  change ExceptT.bindCont f (x.run.run s).1 (x.run.run s).2 = _
  cases (x.run.run s).1 <;> rfl

/-- What follows a step that succeeds takes over its state. -/
theorem run_bind_of_ok {x : ConnectionM σ δ α} {f : α → ConnectionM σ δ β} {s s' : Client σ × δ}
    {a : α} (h : x.run.run s = (.ok a, s')) : (x >>= f).run.run s = (f a).run.run s' := by
  rw [run_bind, h]

/-- A call over a connection comes to the outcome of its invocation. -/
theorem callOver_of_ok {client : Client σ} {d : δ} {call : Call} {invocation : Invocation σ}
    (h : Daemon.invoke call client = .ok invocation) :
    (callOver call).run.run (client, d) = (.ok invocation.outcome, invocation.client, d) := by
  have hget : (get : ConnectionM σ δ (Client σ × δ)).run.run (client, d) =
      (.ok (client, d), client, d) := rfl
  have hinvoke : (ExceptT.mk (pure (Daemon.invoke call client)) :
      ConnectionM σ δ (Invocation σ)).run.run (client, d) = (.ok invocation, client, d) := by
    rw [h]
    rfl
  unfold callOver
  rw [run_bind_of_ok hget]
  simp only
  rw [run_bind_of_ok hinvoke]
  rfl

/-- A call that stops the program leaves the connection as it was. -/
theorem callOver_of_error {client : Client σ} {d : δ} {call : Call} {halt : Halt}
    (h : Daemon.invoke call client = .error halt) :
    (callOver call).run.run (client, d) = (.error halt, client, d) := by
  have hget : (get : ConnectionM σ δ (Client σ × δ)).run.run (client, d) =
      (.ok (client, d), client, d) := rfl
  have hinvoke : (ExceptT.mk (pure (Daemon.invoke call client)) :
      ConnectionM σ δ (Invocation σ)).run.run (client, d) = (.error halt, client, d) := by
    rw [h]
    rfl
  unfold callOver
  rw [run_bind_of_ok hget]
  simp only
  rw [run_bind, hinvoke]

namespace Procedure

variable {attendants : Attendants δ} {client : Client σ} {d : δ}

/-- A procedure that calls goes on with the outcome of its invocation. -/
theorem runOver_call {call : Call} {next : CallOutcome → Procedure α} {invocation : Invocation σ}
    (h : Daemon.invoke call client = .ok invocation) :
    (ask (.call call) next).runOver attendants client d =
      (next invocation.outcome).runOver attendants invocation.client d :=
  run_bind_of_ok (callOver_of_ok h)

end Procedure

/-! ## Servers that answer -/

/-- What calls among exchanges are answered with. -/
def outcomes (exchanges : List Exchange) : List CallOutcome :=
  exchanges.filterMap fun exchange =>
    match exchange with
    | ⟨.call _, outcome⟩ => some outcome
    | _ => none

/-- A server that answers calls one after the other, each by its reply, when they are sent as
requests that are numbered from `id` on. -/
def Serves (reaction : Reaction σ) : UInt64 → List (Call × Except Fault Value) → σ → Prop
  | _, [], _ => True
  | id, (call, reply) :: rest, s =>
    Answered id reply (reaction (Rpc.Request.text ⟨id, call.method, call.args⟩) s).1 ∧
      Serves reaction (id + 1) rest (reaction (Rpc.Request.text ⟨id, call.method, call.args⟩) s).2

/-- The texts of calls that are sent as requests numbered from `id` on. -/
def requestTexts : UInt64 → List Call → List String
  | _, [] => []
  | id, call :: rest =>
    Rpc.Request.text ⟨id, call.method, call.args⟩ :: requestTexts (id + 1) rest

/-- A procedure over a ready connection to a server that answers comes to what it comes to over the
gateway that gives the same answers. -/
theorem Procedure.runOver_eq_run (gateway : Gateway γ) (attendants : Attendants δ)
    (procedure : Procedure α) (g : γ) (d : δ) (client : Client σ) (hready : client.Ready)
    (replies : List (Except Fault Value))
    (hbound : ∀ call ∈ calls (procedure.run (gateway.among attendants) (g, d)).exchanges,
      ∀ options, call.options = some options → options.localDeadline?.isSome = true)
    (hreplies : outcomes (procedure.run (gateway.among attendants) (g, d)).exchanges =
      replies.map (·.mapError CallError.ofFault))
    (hserves : Serves client.reaction client.nextId
      ((calls (procedure.run (gateway.among attendants) (g, d)).exchanges).zip replies)
      client.server) :
    ∃ client', procedure.runOver attendants client d =
        (.ok (procedure.run (gateway.among attendants) (g, d)).result, client',
          (procedure.run (gateway.among attendants) (g, d)).state.2) ∧
      client'.delivered = client.delivered ++ requestTexts client.nextId
        (calls (procedure.run (gateway.among attendants) (g, d)).exchanges) := by
  induction procedure generalizing g d client replies with
  | done a => exact ⟨client, rfl, (List.append_nil _).symm⟩
  | ask r next ih =>
    cases r with
    | serial => exact ih _ g _ client hready replies hbound hreplies hserves
    | warn text => exact ih _ g _ client hready replies hbound hreplies hserves
    | confirm prompt => exact ih _ g _ client hready replies hbound hreplies hserves
    | reboot => exact ih _ g _ client hready replies hbound hreplies hserves
    | log entry => exact ih _ g d client hready replies hbound hreplies hserves
    | call call =>
      cases replies with
      | nil => cases hreplies
      | cons reply others =>
        obtain ⟨houtcome, hothers⟩ := List.cons.inj hreplies
        obtain ⟨hanswered, hserved⟩ := hserves
        obtain ⟨later, log, hlater, hinvoke⟩ :=
          invoke_of_answered hready (hbound call List.mem_cons_self) hanswered
        -- The frames behind the answer leave the connection ready for the next call.
        obtain ⟨client', hrun, hdelivered⟩ := ih _ (gateway.call call g).2 d _
          (hready.afterCall hlater) others
          (fun other hmem => hbound other (List.mem_cons_of_mem _ hmem)) hothers hserved
        refine ⟨client', ?_, ?_⟩
        · have hsame : reply.mapError CallError.ofFault = (gateway.call call g).1 := houtcome.symm
          rw [runOver_call hinvoke]
          simp only [hsame]
          exact hrun
        · exact hdelivered.trans (List.append_assoc _ _ _)

/-! ## Commands over a fresh connection -/

/-- The text of the request that is sent for the call at a position: its id is the number of the
call, counted from one on. -/
def numberedText (position : Nat) (call : Call) : String :=
  (Value.object [("jsonrpc", .string "2.0"), ("id", .ofUInt64 (.ofNat (position + 1))),
    ("method", .string call.method), ("params", .array call.args)]).text

/-- The requests for some calls are numbered in order. -/
theorem requestTexts_eq_mapIdx (calls : List Call) (n : Nat) :
    requestTexts (.ofNat (n + 1)) calls = calls.mapIdx fun i call => numberedText (n + i) call := by
  induction calls generalizing n with
  | nil => rfl
  | cons call rest ih =>
    have hnext : (UInt64.ofNat (n + 1)) + 1 = .ofNat (n + 1 + 1) := by
      rw [UInt64.ofNat_add (n + 1) 1]
      rfl
    rw [requestTexts, List.mapIdx_cons, hnext, ih (n + 1)]
    congr 1
    congr 1
    funext i call
    rw [Nat.add_right_comm, Nat.add_assoc]

/-- Over a fresh connection to a server that answers every call by its reply, after any number of
frames that the call passes over, a command has the result that it has over the gateway that gives
the same answers, and leaves the attendants in the same state. What it has sent are the calls of the
gateway, at most five, as requests that are numbered from one on. -/
theorem dispatch_over_connection (gateway : Gateway γ) (attendants : Attendants δ) (g : γ) (d : δ)
    (command : Command) (options : CallOptions) (server : Server σ) (uri : String)
    (replies : List (Except Fault Value)) (hbound : options.localDeadline?.isSome = true)
    (hreplies : outcomes ((dispatch command options).run.run (gateway.among attendants)
      (g, d)).exchanges = replies.map (·.mapError CallError.ofFault))
    (hbefore : ∀ event ∈ server.before, event.Skippable 1)
    (hserves : Serves server.reaction 1
      ((calls ((dispatch command options).run.run (gateway.among attendants)
        (g, d)).exchanges).zip replies) server.state) :
    ∃ client, (dispatch command options).run.runOver attendants (server.client uri) d =
        (.ok ((dispatch command options).run.run (gateway.among attendants) (g, d)).result, client,
          ((dispatch command options).run.run (gateway.among attendants) (g, d)).state.2) ∧
      client.delivered = (calls ((dispatch command options).run.run (gateway.among attendants)
        (g, d)).exchanges).mapIdx numberedText ∧
      client.delivered.length ≤ 5 := by
  have hcourse := course_dispatch
    (Procedure.course_run (gateway.among attendants) (dispatch command options).run (g, d))
  have hready : (server.client uri).Ready := by
    refine ⟨rfl, ?_⟩
    intro event hmem
    have hall := Rpc.upToLast_eq_self fun e he => (hbefore e he).isLast_eq_false
    change event ∈ Rpc.upToLast server.before at hmem
    rw [hall] at hmem
    exact hbefore event hmem
  -- A bounded call of the script carries the options of the command, whose deadline fits.
  have hbounded : ∀ call ∈ calls ((dispatch command options).run.run (gateway.among attendants)
      (g, d)).exchanges, ∀ bounds, call.options = some bounds →
        bounds.localDeadline?.isSome = true := by
    intro call hmem bounds hbounds
    rcases Command.options_of_mem_script (hcourse.calls_begin.subset hmem) with hnone | hsome
    · rw [hnone] at hbounds
      cases hbounds
    · rw [hsome] at hbounds
      obtain rfl := Option.some.inj hbounds
      exact hbound
  obtain ⟨client, hrun, hdelivered⟩ := Procedure.runOver_eq_run gateway attendants
    (dispatch command options).run g d (server.client uri) hready replies hbounded hreplies hserves
  have htexts : client.delivered = (calls ((dispatch command options).run.run
      (gateway.among attendants) (g, d)).exchanges).mapIdx numberedText := by
    have hfirst := requestTexts_eq_mapIdx (calls ((dispatch command options).run.run
      (gateway.among attendants) (g, d)).exchanges) 0
    simp only [Nat.zero_add] at hfirst
    exact hdelivered.trans hfirst
  refine ⟨client, hrun, htexts, ?_⟩
  rw [htexts, List.length_mapIdx]
  exact Nat.le_trans hcourse.calls_begin.length_le (command.length_script_le options)

/-! ## A switch that cannot be set -/

/-- Attendants who agree to everything. -/
def agreeing : Attendants Unit where
  serial _ := (.ok "A1-1001", ())
  warn _ _ := ()
  confirm _ _ := (true, ())
  reboot _ := (.ok (), ())

/-- The fault of a server whose other node refuses connections. -/
def refusal : Fault :=
  ⟨1, "no", some ⟨none, some "ECONNREFUSED", none, none⟩⟩

/-- What is replied on an active node with the switch set, where the other node cannot be
reached. -/
def refusingReplies : List (Except Fault Value) :=
  [.ok (.bool true), .ok (.object [("disabled", .bool true)]), .ok (.string "MASTER"),
    .error refusal]

/-- The gateway of these replies, in turn. -/
def refusingGateway : Gateway Nat where
  call _ n := ((refusingReplies.getD n (.ok .null)).mapError CallError.ofFault, n + 1)

/-- A server that gives these replies between other frames. -/
def refusingServer : Server Nat where
  greeting := .upgraded
  before := [.ping]
  reaction _ n :=
    (match n with
      | 0 => [.text "\x7b\"result\":false\x7d", .text "\x7b\"id\":1,\"result\":true\x7d", .pong]
      | 1 => [.text "\x7b\"id\":1,\"result\":7\x7d",
          .text "\x7b\"id\":2,\"result\":\x7b\"disabled\":true\x7d\x7d"]
      | 2 => [.binary, .text "\x7b\"id\":3,\"result\":\"MASTER\"\x7d"]
      | _ => [.text ("\x7b\"id\":4,\"error\":\x7b\"code\":1,\"message\":\"no\"," ++
          "\"data\":\x7b\"errname\":\"ECONNREFUSED\"\x7d\x7d\x7d")], n + 1)
  state := 0

/-- The server answers each of the four calls of an attempt to set the switch. -/
theorem serves_refusingServer : Serves refusingServer.reaction 1
    ((calls ((dispatch (.perform .enable) .standard).run.run (refusingGateway.among agreeing)
      (0, ())).exchanges).zip refusingReplies) refusingServer.state := by
  have hcalls : (calls ((dispatch (.perform .enable) .standard).run.run
      (refusingGateway.among agreeing) (0, ())).exchanges).zip refusingReplies =
        (Action.inquiries .enable ++ [Action.mutation .enable]).zip refusingReplies := rfl
  have hnotice : Rpc.Response.parse "\x7b\"result\":false\x7d" =
      .ok ⟨none, some (.bool false), none⟩ := rfl
  have hlate : Rpc.Response.parse "\x7b\"id\":1,\"result\":7\x7d" =
      .ok ⟨some 1, some (.integer ⟨7, by decide, by decide⟩), none⟩ := rfl
  rw [hcalls]
  refine ⟨⟨[_], _, [.pong], rfl, ?_, .result rfl rfl rfl rfl, ?_⟩,
    ⟨[_], _, [], rfl, ?_, .result rfl rfl rfl rfl, ?_⟩,
    ⟨[_], _, [], rfl, ?_, .result rfl rfl rfl rfl, ?_⟩,
    ⟨[], _, [], rfl, ?_, .fault rfl rfl rfl, ?_⟩, trivial⟩
  all_goals simp only [List.forall_mem_singleton, List.not_mem_nil, false_imp_iff, implies_true]
  · exact .text hnotice (by decide)
  · exact .pong
  · exact .text hlate (by decide)
  · exact .binary

/-- The switch cannot be set, which the attempt over the connection reports after four requests. -/
theorem dispatch_over_connection_refused :
    ∃ client, (dispatch (.perform .enable) .standard).run.runOver agreeing
        (refusingServer.client "ws://127.0.0.1:6000") () =
          (.ok (.error (.mutation .connectFailure)), client, ()) ∧
      client.delivered.length = 4 := by
  obtain ⟨client, hrun, hsent, -⟩ := dispatch_over_connection refusingGateway agreeing 0 ()
    (.perform .enable) .standard refusingServer "ws://127.0.0.1:6000" refusingReplies (by decide)
    rfl (fun event hmem => by cases List.mem_singleton.mp hmem; exact .ping) serves_refusingServer
  refine ⟨client, hrun, ?_⟩
  rw [hsent]
  rfl

end FailoverControl.Control
