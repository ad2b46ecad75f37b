import FailoverControl.Proofs.App.Requests
import FailoverControl.Proofs.Rpc.NewerText

/-!
# Sessions with a newer daemon

A session with a newer daemon shows and comes to what it would show and come to with the known one,
whatever the newer one writes into its responses. Of the failover settings only the switch is looked
at, so the daemon may add settings as well.

The main statements: every procedure does the same (`runIn_newer`), and responses, calls and the
settings are understood as those of the known daemon (`newer_daemon_understood`).
-/

set_option autoImplicit false

namespace FailoverControl.App

open FailoverControl.Cluster (Config)
open FailoverControl.Control hiding invoke
open FailoverControl.Daemon hiding invoke
open FailoverControl.Json
open FailoverControl.Rpc hiding Request Failure

variable {σ α : Type}

/-! ## Calls -/

/-- What comes of a call, and what comes of it with a newer daemon. -/
structure NewerInvocation (invocation invocation' : Invocation σ) : Prop where
  outcome : invocation'.outcome = invocation.outcome
  client : NewerClient invocation.client invocation'.client
  log : invocation'.log = invocation.log

/-- A call comes to the same, or stops the program for the same reason. -/
inductive SameCall : Except Halt (Invocation σ) → Except Halt (Invocation σ) → Prop
  | done {invocation invocation' : Invocation σ} (h : NewerInvocation invocation invocation') :
      SameCall (.ok invocation) (.ok invocation')
  | stopped (halt : Halt) : SameCall (.error halt) (.error halt)

/-- Calls that come to the same have the same outcome. -/
theorem SameCall.outcome_eq {made made' : Except Halt (Invocation σ)} (h : SameCall made made') :
    made'.map Invocation.outcome = made.map Invocation.outcome := by
  cases h with
  | done h => exact congrArg Except.ok h.outcome
  | stopped halt => rfl

section Calls

variable {client client' : Client σ}

/-- A call comes to the same with a newer daemon, whatever is done when nothing decides it. -/
theorem sameCall_invokeWith (h : NewerClient client client') (call : Call) (bounded : Bool)
    (undecided : Except Halt (CallOutcome × List Log.Entry)) :
    SameCall (Daemon.invokeWith call bounded client undecided)
      (Daemon.invokeWith call bounded client' undecided) := by
  obtain ⟨hresult, hclient, hlog⟩ := h.call call.method call.args bounded
  simp only [Daemon.invokeWith, hresult, hlog, bind, Except.bind, pure, Except.pure]
  cases (client.call call.method call.args bounded).1 with
  | some result => exact .done ⟨rfl, hclient, rfl⟩
  | none =>
    cases undecided with
    | error halt => exact .stopped halt
    | ok given => exact .done ⟨rfl, hclient, rfl⟩

/-- A call comes to the same with a newer daemon, bounded or not. -/
theorem sameCall_invoke (h : NewerClient client client') (call : Call) :
    SameCall (Daemon.invoke call client) (Daemon.invoke call client') := by
  unfold Daemon.invoke
  cases call.options with
  | none => exact sameCall_invokeWith h call false _
  | some options =>
    simp only
    cases options.localDeadline? with
    | none => exact .stopped .overflow
    | some deadline => exact sameCall_invokeWith h call true _

/-- What a call that stops the program leaves behind is the same. -/
theorem remains_newer (h : NewerClient client client') (call : Call) (halt : Halt) :
    NewerClient (halt.remains call client).1 (halt.remains call client').1 ∧
      (halt.remains call client').2 = (halt.remains call client).2 := by
  cases halt with
  | waiting => exact (h.call call.method call.args false).2
  | overflow => exact ⟨h, rfl⟩
  | interrupted => exact ⟨h, rfl⟩

end Calls

/-! ## Sessions -/

/-- A session, and a session with a newer daemon. -/
structure NewerSession (session session' : Session σ) : Prop where
  client : NewerClient session.client session'.client
  desk : session'.desk = session.desk
  interruptAtPrompt : session'.interruptAtPrompt = session.interruptAtPrompt

/-- Two runs come to the same and leave such sessions. -/
structure SameRun (ended ended' : Except Halt α × Session σ) : Prop where
  result : ended'.1 = ended.1
  session : NewerSession ended.2 ended'.2

section Sessions

variable {session session' : Session σ}

/-- Sessions stay alike when their connections do and the same is logged. -/
theorem NewerSession.advance (h : NewerSession session session') {client client' : Client σ}
    (hclient : NewerClient client client') {log log' : List Log.Entry} (hlog : log' = log) :
    NewerSession (session.advance client log) (session'.advance client' log') where
  client := hclient
  desk := by simp only [Session.advance, h.desk, hlog]
  interruptAtPrompt := h.interruptAtPrompt

/-- A session makes a call of a newer daemon as it makes one of the known daemon. -/
theorem callDaemon_newer (h : NewerSession session session') (call : Call) :
    SameRun ((callDaemon call).run.run session) ((callDaemon call).run.run session') := by
  have hsame := sameCall_invoke h.client call
  have hremains := remains_newer h.client call
  rw [run_callDaemon, run_callDaemon]
  generalize Daemon.invoke call session.client = made at hsame ⊢
  generalize Daemon.invoke call session'.client = made' at hsame ⊢
  cases hsame with
  | done hinvoked =>
    exact ⟨congrArg Except.ok hinvoked.outcome, h.advance hinvoked.client hinvoked.log⟩
  | stopped halt =>
    obtain ⟨hclient, hlog⟩ := hremains halt
    exact ⟨rfl, h.advance hclient hlog⟩

/-- Every request is answered in the same way. -/
theorem answer_newer (h : NewerSession session session') (r : Request) :
    SameRun ((answer r).run.run session) ((answer r).run.run session') := by
  cases r with
  | call call => exact callDaemon_newer h call
  | confirm prompt =>
    obtain ⟨client', desk', interrupt'⟩ := session'
    obtain ⟨hclient, rfl, rfl⟩ := h
    obtain ⟨client, ⟨palette, confirmer, serial, reboot, reboots, transcript⟩, interrupt⟩ := session
    cases confirmer with
    | automatic => exact ⟨rfl, hclient, rfl, rfl⟩
    | terminal t => cases interrupt <;> exact ⟨rfl, hclient, rfl, rfl⟩
  | _ =>
    obtain ⟨client', desk', interrupt'⟩ := session'
    obtain ⟨hclient, rfl, rfl⟩ := h
    exact ⟨rfl, hclient, rfl, rfl⟩

/-- A procedure comes to the same and leaves the desk as it would have left it. -/
theorem runIn_newer (h : NewerSession session session') (procedure : Procedure α) :
    SameRun (runIn procedure session) (runIn procedure session') := by
  induction procedure generalizing session session' with
  | done a => exact ⟨rfl, h⟩
  | ask r next ih =>
    obtain ⟨hresult, hleft⟩ := answer_newer h r
    rcases hanswer : (answer r).run.run session with ⟨halt | a, left⟩
    · rcases hanswer' : (answer r).run.run session' with ⟨ended', left'⟩
      rw [hanswer, hanswer'] at hresult hleft
      obtain rfl : ended' = .error halt := hresult
      rw [runIn_ask_of_error hanswer, runIn_ask_of_error hanswer']
      exact ⟨rfl, hleft⟩
    · rcases hanswer' : (answer r).run.run session' with ⟨ended', left'⟩
      rw [hanswer, hanswer'] at hresult hleft
      obtain rfl : ended' = .ok a := hresult
      rw [runIn_ask_of_ok hanswer, runIn_ask_of_ok hanswer']
      exact ih a hleft

end Sessions

/-! ## Settings -/

/-- Objects with the same switch hold the same settings, or none. -/
theorem ofValue_congr {members members' : List (String × Value)}
    (h : members'.lookup "disabled" = members.lookup "disabled") :
    Config.ofValue (.object members') = Config.ofValue (.object members) := by
  simp only [Config.ofValue, h]

/-- Settings with the same switch are taken for the same. -/
theorem course_fetchConfig_congr {members members' : List (String × Value)}
    (h : members'.lookup "disabled" = members.lookup "disabled") {result : Except Failure Config} :
    Task.Course fetchConfig [asked Method.config (.ok (.object members'))] result ↔
      Task.Course fetchConfig [asked Method.config (.ok (.object members))] result := by
  have hread : readConfig (.ok (.object members')) = readConfig (.ok (.object members)) := by
    simp only [readConfig, readFetched, ofValue_congr h]
  unfold fetchConfig
  rw [course_fetch_iff, course_fetch_iff]
  exact Iff.of_eq (congrArg (result = ·) hread)

/-! ## A fault in the words of two daemons -/

/-- The class of a timeout. -/
def classMember : Member := .tight "class" "\"CallTimeout\"".toList (spells_plain rfl)

/-- A line of a trace, in a number that no reader of values accepts. -/
def lineMember : Member := .tight "line" "1e999".toList (spells_plain rfl)

/-- The code of the fault. -/
def codeMember : Member := .tight "code" "-5".toList (spells_plain rfl)

/-- The message of the fault. -/
def messageMember : Member := .tight "message" "\"busy\"".toList (spells_plain rfl)

/-- The id of the request. -/
def idMember : Member := .tight "id" "7".toList (spells_plain rfl)

/-- A trace with the given members. -/
def traceMember (members : List Member) : Member :=
  .tight "trace" (objectText [] members) (spells_plain rfl)

/-- Details with the given members. -/
def dataMember (members : List Member) : Member :=
  .tight "data" (objectText [] members) (spells_plain rfl)

/-- A fault with the given members. -/
def errorMember (members : List Member) : Member :=
  .tight "error" (objectText [] members) (spells_plain rfl)

/-- A trace that also gives the line has grown from one with the class alone. -/
theorem traceGrown_class :
    TraceGrown (objectText [] [classMember]) (objectText [] [lineMember, classMember]) := by
  have hbody : StringBody "CallTimeout".toList := (spells_plain rfl).stringBody
  have hclass : ∀ m ∈ [classMember], IsJson m.value.core := by
    rw [List.forall_mem_singleton]
    exact .string hbody
  have hwhole : IsWhole ['1'] := .positive rfl (by decide) (List.forall_mem_nil _)
  have hdigits : Digits "999".toList := ⟨List.cons_ne_nil _ _, List.all_eq_true.mp rfl⟩
  have hexponent : IsExponent "e999".toList := .present (.inl rfl) (.inl rfl) hdigits
  have hline : IsJson lineMember.value.core := .numeral (.unsigned (.mk hwhole .absent hexponent))
  apply RecordGrown.object blanks_nil blanks_nil hclass
  exact @MembersGrown.inserted _ _ [] [classMember] lineMember "line" (spells_plain rfl)
    (by decide) hline

/-- Details grow with the trace in them. -/
theorem detailsGrown_trace :
    DetailsGrown (objectText [] [traceMember [classMember]])
      (objectText [] [traceMember [lineMember, classMember]]) := by
  have htrace : ∀ m ∈ [traceMember [classMember]], IsJson m.value.core := by
    rw [List.forall_mem_singleton]
    exact RecordGrown.isJson_left traceGrown_class
  apply RecordGrown.object blanks_nil blanks_nil htrace
  exact @MembersGrown.within _ _ [] [] _ _ "trace" (spells_plain rfl)
    (spells_plain rfl) ⟨rfl, traceGrown_class⟩

/-- A fault grows with its details and may give its message before its code. -/
theorem faultGrown_busy :
    FaultGrown (objectText [] [codeMember, messageMember, dataMember [traceMember [classMember]]])
      (objectText [] [messageMember, codeMember,
        dataMember [traceMember [lineMember, classMember]]]) := by
  have hwhole : IsWhole ['5'] := .positive rfl (by decide) (List.forall_mem_nil _)
  have hcode : IsJson codeMember.value.core := .numeral (.negative (.mk hwhole .absent .absent))
  have hbody : StringBody "busy".toList := (spells_plain rfl).stringBody
  have hmessage : IsJson messageMember.value.core := .string hbody
  have hdata : IsJson (dataMember [traceMember [classMember]]).value.core :=
    RecordGrown.isJson_left detailsGrown_trace
  have hmembers :
      ∀ m ∈ [codeMember, messageMember, dataMember [traceMember [classMember]]],
        IsJson m.value.core := by
    simp only [List.forall_mem_cons, List.not_mem_nil, false_imp_iff, implies_true, and_true]
    exact ⟨hcode, hmessage, hdata⟩
  apply RecordGrown.object blanks_nil blanks_nil hmembers
  apply MembersGrown.trans (.permuted (.swap _ _ _))
  exact @MembersGrown.within _ _ [messageMember, codeMember] [] _ _ "data"
    (spells_plain rfl) (spells_plain rfl) ⟨rfl, detailsGrown_trace⟩

/-- The fault as the known daemon writes it. -/
def knownError : Member :=
  errorMember [codeMember, messageMember, dataMember [traceMember [classMember]]]

/-- The fault as the newer daemon writes it. -/
def newerError : Member :=
  errorMember [messageMember, codeMember, dataMember [traceMember [lineMember, classMember]]]

/-- The response of the known daemon. -/
def knownText : String :=
  "\x7b\"id\":7,\"error\":\x7b\"code\":-5,\"message\":\"busy\",\"data\":\x7b\"trace\":\x7b" ++
    "\"class\":\"CallTimeout\"\x7d\x7d\x7d\x7d"

/-- The response of the newer daemon. -/
def newerText : String :=
  "\x7b\"error\":\x7b\"message\":\"busy\",\"code\":-5,\"data\":\x7b\"trace\":\x7b" ++
    "\"line\":1e999,\"class\":\"CallTimeout\"\x7d\x7d\x7d,\"id\":7\x7d"

/-- The newer text has a line in its trace, the members of the fault in another order, and the fault
in front. -/
theorem newerText_known : NewerText knownText newerText := by
  have hwhole : IsWhole ['7'] := .positive rfl (by decide) (List.forall_mem_nil _)
  have hid : IsJson idMember.value.core := .numeral (.unsigned (.mk hwhole .absent .absent))
  have herror : IsJson knownError.value.core := RecordGrown.isJson_left faultGrown_busy
  have hmembers : ∀ m ∈ [idMember, knownError], IsJson m.value.core := by
    simp only [List.forall_mem_cons, List.not_mem_nil, false_imp_iff, implies_true, and_true]
    exact ⟨hid, herror⟩
  have hframe : FrameGrown (objectText [] [idMember, knownError])
      (objectText [] [newerError, idMember]) := by
    apply RecordGrown.object blanks_nil blanks_nil hmembers
    apply MembersGrown.trans (.permuted (.swap _ _ _))
    exact @MembersGrown.within _ _ [] [idMember] _ _ "error" (spells_plain rfl)
      (spells_plain rfl) ⟨rfl, faultGrown_busy⟩
  have hknown : String.ofList ([] ++ (objectText [] [idMember, knownError] ++ [])) = knownText := by
    decide +kernel
  have hnewer : String.ofList ([] ++ (objectText [] [newerError, idMember] ++ [])) = newerText := by
    decide +kernel
  rw [← hknown, ← hnewer]
  exact .frame blanks_nil blanks_nil blanks_nil blanks_nil hframe

/-- A connection on which one text has arrived for request 7. -/
def receiving (text : String) : Client Unit :=
  ⟨"", 7, .live, [.text text], fun _ state => ([], state), (), []⟩

/-! ## What is understood -/

/-- A newer daemon is understood as the known one. Its text writes a response where the known one
does, and the same one; a call comes to the same, whatever arrives in place of what; and the
settings are those that the switch says, whatever else is answered with it. -/
theorem newer_daemon_understood :
    (∀ {text text' : String}, NewerText text text' → ∀ response : Response,
      Response.parse text' = .ok response ↔ Response.parse text = .ok response) ∧
    (∀ {σ : Type} {client client' : Client σ}, NewerClient client client' → ∀ call : Call,
      (Daemon.invoke call client').map Invocation.outcome =
        (Daemon.invoke call client).map Invocation.outcome) ∧
    ∀ {members members' : List (String × Value)},
      members'.lookup "disabled" = members.lookup "disabled" →
        Config.ofValue (.object members') = Config.ofValue (.object members) ∧
        ∀ result, Task.Course fetchConfig [asked Method.config (.ok (.object members'))] result ↔
          Task.Course fetchConfig [asked Method.config (.ok (.object members))] result := by
  refine ⟨fun htext response => ?_, fun hclient call => ?_, fun hswitch => ?_⟩
  · rw [← toOption_eq_some_iff, ← toOption_eq_some_iff, htext.parse_eq]
  · exact (sameCall_invoke hclient call).outcome_eq
  · exact ⟨ofValue_congr hswitch, fun _ => course_fetchConfig_congr hswitch⟩

/-- A newer daemon that also gives the line of a trace, and puts the message of a fault before the
code, is understood: its timeout is a timeout, and its switch is read. -/
theorem newer_daemon_understood_timeout :
    Response.parse newerText =
      .ok ⟨some 7, none, some ⟨-5, "busy", some ⟨none, none, none, some ⟨some "CallTimeout"⟩⟩⟩⟩ ∧
    (Daemon.invoke (.forwarded Method.systemInfo [] (some .standard)) (receiving newerText)).map
      Invocation.outcome = .ok (.error .timeout) ∧
    Config.ofValue (.object [("priority", .null), ("disabled", .bool true)]) = .ok ⟨true⟩ := by
  obtain ⟨htexts, hcalls, hsettings⟩ := newer_daemon_understood
  have hparse : Response.parse knownText =
      .ok ⟨some 7, none, some ⟨-5, "busy", some ⟨none, none, none, some ⟨some "CallTimeout"⟩⟩⟩⟩ :=
    rfl
  have hclient : NewerClient (receiving knownText) (receiving newerText) :=
    { NewerClient.refl (receiving knownText) with
      unread := .cons (.text newerText_known hparse) .nil }
  have hswitch : [("priority", Value.null), ("disabled", .bool true)].lookup "disabled" =
      [("disabled", Value.bool true)].lookup "disabled" := rfl
  exact ⟨(htexts newerText_known _).mpr hparse, hcalls hclient _, (hsettings hswitch).1⟩

end FailoverControl.App
