import FailoverControl.Proofs.App.Stopping

/-!
# Waiting for the other node

Two commands turn to the other node. A report asks it for facts, with bounds that go along in whole
seconds and that set a deadline on this side. A takeover asks it to become passive, and that call
carries no bounds: it is waited for as long as a call of the local daemon, if need be for ever.

The main statements: what bounds the calls of every run of a command (`dispatch_bounds`), and a
program that waits for ever for the other node carries out a takeover (`takeover_of_waiting`).
-/

set_option autoImplicit false

namespace FailoverControl

namespace Daemon

/-! ## Bounded calls -/

/-- A call comes with bounds, and passes them on in whole seconds as its third argument. -/
structure Call.Carries (call : Call) (options : CallOptions) : Prop where
  options_eq : call.options = some options
  passed_on : ∃ timeout connectTimeout : UInt64,
    timeout.toNat = options.timeout.seconds ∧
      connectTimeout.toNat = options.connectTimeout.seconds ∧
      call.args[2]? = some (.object [("connect_timeout", .ofUInt64 connectTimeout),
        ("timeout", .ofUInt64 timeout)])

/-- Over every connection a call ends by its local deadline: nothing makes it wait for ever, and
when nothing has decided it by then it counts as timed out. -/
structure Call.GivenUpAfter (call : Call) (options : CallOptions) : Prop where
  not_waiting : ∀ {σ : Type} (client : Rpc.Client σ), invoke call client ≠ .error .waiting
  timeout : ∀ {σ : Type} (client : Rpc.Client σ) (deadline : Duration),
    options.localDeadline? = some deadline →
      (client.call call.method call.args true).1 = none →
        ∃ invocation, invoke call client = .ok invocation ∧
          invocation.outcome = .error .timeout ∧ givenUpEntry call.method deadline ∈ invocation.log

/-- Over every connection a call waits for ever when nothing decides it. -/
def Call.WaitsForEver (call : Call) : Prop :=
  ∀ {σ : Type} (client : Rpc.Client σ),
    (client.call call.method call.args false).1 = none → invoke call client = .error .waiting

/-- A call that is forwarded with bounds passes them on. -/
theorem carries_forwarded (method : String) (args : List Json.Value) (options : CallOptions) :
    (Call.forwarded method args (some options)).Carries options where
  options_eq := rfl
  passed_on := by
    refine ⟨.ofNatLT options.timeout.seconds options.timeout.seconds_lt,
      .ofNatLT options.connectTimeout.seconds options.connectTimeout.seconds_lt, ?_, ?_, rfl⟩
    · exact UInt64.toNat_ofNatLT
    · exact UInt64.toNat_ofNatLT

variable {call : Call} {options : CallOptions}

/-- A call that nothing decides comes to what is done then, and logs it. -/
theorem invokeWith_of_undecided {σ : Type} {bounded : Bool} {client : Rpc.Client σ}
    (outcome : CallOutcome) (entries : List Log.Entry)
    (h : (client.call call.method call.args bounded).1 = none) :
    ∃ invocation, invokeWith call bounded client (.ok (outcome, entries)) = .ok invocation ∧
      invocation.outcome = outcome ∧ ∀ entry ∈ entries, entry ∈ invocation.log := by
  unfold invokeWith
  rcases hcall : client.call call.method call.args bounded with ⟨result, client', log⟩
  rw [hcall] at h
  simp only at h
  subst h
  exact ⟨⟨outcome, client', log ++ entries⟩, rfl, rfl,
    fun entry hentry => List.mem_append_right log hentry⟩

/-- A call that comes with bounds is given up in time. -/
theorem givenUpAfter_of_options (h : call.options = some options) : call.GivenUpAfter options where
  not_waiting client := by
    unfold invoke
    rw [h]
    cases hdeadline : options.localDeadline? with
    | none => simp [hdeadline]
    | some deadline =>
      simp only [hdeadline, Ne, App.invokeWith_eq_error_iff]
      exact fun hwaiting => nomatch hwaiting.2
  timeout client deadline hdeadline hundecided := by
    obtain ⟨invocation, hinvoke, houtcome, hlog⟩ := invokeWith_of_undecided (.error .timeout)
      [givenUpEntry call.method deadline] hundecided
    refine ⟨invocation, ?_, houtcome, hlog _ (List.mem_singleton_self _)⟩
    simp only [invoke, h, hdeadline]
    exact hinvoke

/-- A call without bounds waits for ever when nothing decides it. -/
theorem waitsForEver_of_options (h : call.options = none) : call.WaitsForEver := by
  intro σ client hundecided
  unfold invoke
  rw [h]
  exact App.invokeWith_eq_error_iff.mpr ⟨hundecided, rfl⟩

end Daemon

namespace Control

open FailoverControl.Daemon

/-! ## The calls of commands -/

/-- Whether a call is run by the other node. -/
def IsForwarded (call : Call) : Prop := call.method = Method.callRemote

instance : DecidablePred IsForwarded := fun call =>
  inferInstanceAs (Decidable (call.method = Method.callRemote))

/-- The calls of a script: local ones have no bounds, the question of a report has those of the
command, and the demotion of a takeover has none. -/
theorem Command.bounds_of_mem_script {options : CallOptions} {command : Command} {call : Call}
    (h : call ∈ command.script options) :
    (¬ IsForwarded call ∧ call.options = none) ∨
      (command = .status ∧ call = peerInquiry options) ∨
      (command = .perform .takeover ∧ call = Action.mutation .takeover) := by
  have hinquiry {method : String} (hmethod : method ≠ Method.callRemote)
      (hcall : call = inquiry method) : ¬ IsForwarded call ∧ call.options = none := by
    subst hcall
    exact ⟨hmethod, rfl⟩
  have hsnapshot (hmem : call ∈ snapshotInquiries) :
      ¬ IsForwarded call ∧ call.options = none := by
    simp only [snapshotInquiries, List.mem_cons, List.not_mem_nil, or_false] at hmem
    rcases hmem with hcall | hcall | hcall
    · exact hinquiry (by decide) hcall
    · exact hinquiry (by decide) hcall
    · exact hinquiry (by decide) hcall
  cases command with
  | status =>
    rcases List.mem_append.mp h with hmem | hmem
    · exact .inl (hsnapshot hmem)
    · simp only [List.mem_cons, List.not_mem_nil, or_false] at hmem
      rcases hmem with hcall | hcall
      · exact .inr (.inl ⟨rfl, hcall⟩)
      · exact .inl (hinquiry (by decide) hcall)
  | perform action =>
    rcases List.mem_append.mp h with hmem | hmem
    · rcases Action.of_mem_inquiries hmem with hmem | hcall
      · exact .inl (hsnapshot hmem)
      · exact .inl (hinquiry (by decide) hcall)
    · obtain rfl := List.mem_singleton.mp hmem
      cases action with
      | takeover => exact .inr (.inr ⟨rfl, rfl⟩)
      | _ => exact .inl ⟨by decide, rfl⟩

/-- In every run of a command, local calls have no bounds. A call that the other node runs has the
bounds of the command, passes them on and is given up in time when the command is a report. The
only other one is the demotion of a takeover: it has no bounds, passes none on and waits for ever
when nothing decides it. -/
theorem dispatch_bounds {σ : Type} (world : World σ) (command : Command) (options : CallOptions)
    (s : σ) :
    ∀ call ∈ calls ((dispatch command options).run.run world s).exchanges,
      (¬ IsForwarded call → call.options = none) ∧
        (IsForwarded call →
          (command = .status ∧ call.Carries options ∧ call.GivenUpAfter options) ∨
            (command = .perform .takeover ∧ call.options = none ∧
              call.args = [.string Method.becomePassive, .array []] ∧ call.WaitsForEver)) := by
  intro call hcall
  have hcourse := Procedure.course_run world (dispatch command options).run s
  have hscript := (course_dispatch hcourse).calls_begin.subset hcall
  rcases Command.bounds_of_mem_script hscript with
    ⟨hlocal, hunbounded⟩ | ⟨rfl, rfl⟩ | ⟨rfl, rfl⟩
  · exact ⟨fun _ => hunbounded, fun hforwarded => absurd hforwarded hlocal⟩
  · refine ⟨fun hlocal => absurd rfl hlocal, fun _ => .inl ⟨rfl, ?_, ?_⟩⟩
    · exact carries_forwarded Method.systemInfo [] options
    · exact givenUpAfter_of_options rfl
  · refine ⟨fun hlocal => absurd rfl hlocal, fun _ => .inr ⟨rfl, rfl, rfl, ?_⟩⟩
    exact waitsForEver_of_options rfl

/-- A healthy cluster seen from its standby node, whose operator agrees to everything. -/
def standbyWorld : World Unit where
  answer
    | .call call, s =>
      (if call.method = Method.licenseIsHA then .ok (.bool true)
        else if call.method = Method.config then .ok (.object [("disabled", .bool false)])
        else if call.method = Method.status then .ok (.string "BACKUP")
        else .ok (.array []), s)
    | .serial, s => (.ok "A", s)
    | .warn _, s => ((), s)
    | .confirm _, s => (true, s)
    | .reboot, s => (.ok (), s)
    | .log _, s => ((), s)

/-- On a standby node a report bounds its question and a takeover does not bound the demotion. -/
theorem dispatch_bounds_standby :
    (peerInquiry .standard ∈
        calls ((dispatch .status .standard).run.run standbyWorld ()).exchanges ∧
      IsForwarded (peerInquiry .standard) ∧ (peerInquiry .standard).Carries .standard ∧
      (peerInquiry .standard).GivenUpAfter .standard) ∧
    Action.mutation .takeover ∈
        calls ((dispatch (.perform .takeover) .standard).run.run standbyWorld ()).exchanges ∧
      IsForwarded (Action.mutation .takeover) ∧ (Action.mutation .takeover).options = none ∧
      (Action.mutation .takeover).WaitsForEver := by
  have hreport : calls ((dispatch .status .standard).run.run standbyWorld ()).exchanges =
      snapshotInquiries ++ [peerInquiry .standard, inquiry Method.disabledReasons] := rfl
  have htakeover :
      calls ((dispatch (.perform .takeover) .standard).run.run standbyWorld ()).exchanges =
        Action.inquiries .takeover ++ [Action.mutation .takeover] := rfl
  have hquestion : peerInquiry .standard ∈
      calls ((dispatch .status .standard).run.run standbyWorld ()).exchanges := by
    rw [hreport]
    exact List.mem_append_right _ List.mem_cons_self
  have hdemotion : Action.mutation .takeover ∈
      calls ((dispatch (.perform .takeover) .standard).run.run standbyWorld ()).exchanges := by
    rw [htakeover]
    exact List.mem_append_right _ List.mem_cons_self
  rcases (dispatch_bounds standbyWorld .status .standard () _ hquestion).2 rfl with
    ⟨-, hcarries, hgiven⟩ | ⟨hcommand, -⟩
  · rcases (dispatch_bounds standbyWorld (.perform .takeover) .standard () _ hdemotion).2 rfl with
      ⟨hcommand, -⟩ | ⟨-, hunbounded, -, hwaits⟩
    · cases hcommand
    · exact ⟨⟨hquestion, rfl, hcarries, hgiven⟩, hdemotion, rfl, hunbounded, hwaits⟩
  · cases hcommand

/-- Whether a request is a call that the other node runs without bounds. -/
def Request.isUnboundedForward : Request → Bool
  | .call c => c.method == Method.callRemote && c.options.isNone
  | _ => false

/-- Only a takeover asks for anything of the other node without bounds. -/
theorem avoids_unboundedForward {command : Command} (h : command ≠ .perform .takeover)
    (options : CallOptions) : (dispatch command options).run.Avoids Request.isUnboundedForward := by
  refine Procedure.avoids_of_courses fun exchanges result hcourse e he => ?_
  obtain ⟨request, answer⟩ := e
  cases request with
  | call call =>
    have hcall : call ∈ calls exchanges := List.mem_filterMap.mpr ⟨_, he, rfl⟩
    have hscript := (course_dispatch hcourse).calls_begin.subset hcall
    rcases Command.bounds_of_mem_script hscript with ⟨hlocal, -⟩ | ⟨-, rfl⟩ | ⟨htakeover, -⟩
    · simp only [Request.isUnboundedForward, Bool.and_eq_false_iff, beq_eq_false_iff_ne]
      exact .inl hlocal
    · rfl
    · exact absurd htakeover h
  | _ => rfl

end Control

namespace App

open FailoverControl.Control
open FailoverControl.Daemon

variable {σ : Type}

/-! ## Programs that wait -/

/-- A program that waits for ever for the other node carries out a takeover. -/
theorem takeover_of_waiting {startup : Startup} {session before : Session σ}
    {exchanges : List Exchange} {call : Call}
    {next : CallOutcome → Procedure (Except Failure Outcome)}
    (hproceeds : Proceeds startup.procedure session exchanges (.ask (.call call) next) before)
    (hstops : Stops before (.call call) .waiting) (hforwarded : IsForwarded call) :
    startup.arguments.command = .perform .takeover := by
  by_contra hother
  have hleft := hproceeds.avoids (avoids_unboundedForward hother (peerOptions startup.arguments))
  cases hleft with
  | ask hrequest hnext =>
    cases hstops with
    | waiting hunbounded hundecided =>
      rw [IsForwarded] at hforwarded
      simp [Request.isUnboundedForward, hforwarded, hunbounded] at hrequest

/-- What the standby node of a healthy cluster answers up to the role. -/
def standbyAnswers : List String :=
  ["\x7b\"id\":1,\"result\":true\x7d",
    "\x7b\"id\":2,\"result\":\x7b\"disabled\":false\x7d\x7d",
    "\x7b\"id\":3,\"result\":\"BACKUP\"\x7d"]

/-- When the other node is silent, a report says so and ends, and a takeover waits for ever with its
demotion sent. -/
theorem never_of_silentPeer :
    (run (launching ["takeover", "--yes"]) (typing "")
        (answering (standbyAnswers ++ ["\x7b\"id\":4,\"result\":[]\x7d"]))).exit = .never ∧
      (run (launching ["takeover", "--yes"]) (typing "")
        (answering (standbyAnswers ++ ["\x7b\"id\":4,\"result\":[]\x7d"]))).delivered.getLast? =
        some ("\x7b\"jsonrpc\":\"2.0\",\"id\":5,\"method\":\"failover.callRemote\"," ++
          "\"params\":[\"failover.becomePassive\",[]]\x7d") ∧
      (run (launching []) (typing "") (answering (standbyAnswers ++
        ["\x7b\"id\":0\x7d", "\x7b\"id\":5,\"result\":[]\x7d"]))).exit = .code 0 := by
  refine ⟨?_, ?_, ?_⟩
  · decide +kernel
  · decide +kernel
  · decide +kernel

end App

end FailoverControl
