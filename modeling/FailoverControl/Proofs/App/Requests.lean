import FailoverControl.Proofs.App.Sessions
import FailoverControl.Proofs.Control.Consultation
import FailoverControl.Proofs.Control.Reboot
import FailoverControl.Proofs.Operator.Consent
import FailoverControl.Proofs.Rpc.RequestText

/-!
# What is asked for in a session

A session answers the requests of a procedure until one of them stops the program. What it has sent
to the daemon and how often it has attempted a reboot can be read off the requests; the operator's
input counts only where a question is put.

The main statements, on procedures under the control of one question: at a terminal they ask for a
disruption only when the unread lines consent (`linesConsent_of_disrupts`), and where all questions
are confirmed they run as at a terminal whose unread lines consent (`sameCourse_of_consent`) and
whatever is typed (`runIn_automatic`).
-/

set_option autoImplicit false

namespace FailoverControl.App

open FailoverControl.Control (Procedure Request)
open FailoverControl.Daemon (Halt)
open FailoverControl.Operator
open FailoverControl.Rpc (Client)

variable {σ α : Type} {session session' : Session σ}

/-! ## Requests of a session -/

/-- What a procedure asks for in a session, in order. The last request may stop the program. -/
def requestsIn : Procedure α → Session σ → List Request
  | .done _, _ => []
  | .ask r next, session =>
    r :: match (answer r).run.run session with
      | (.ok a, session) => requestsIn (next a) session
      | (.error _, _) => []

section Steps

variable {r : Request} {next : r.Answer → Procedure α} {a : r.Answer} {halt : Halt}

/-- A request that is answered is followed by what its answer leads to. -/
theorem runIn_ask_of_ok (h : (answer r).run.run session = (.ok a, session')) :
    runIn (.ask r next) session = runIn (next a) session' := by
  unfold runIn
  rw [Procedure.interpret, Control.run_bind, h]

/-- A request that stops the session is the end of it. -/
theorem runIn_ask_of_error (h : (answer r).run.run session = (.error halt, session')) :
    runIn (.ask r next) session = (.error halt, session') := by
  unfold runIn
  rw [Procedure.interpret, Control.run_bind, h]

/-- A request that is answered is asked for before what its answer leads to. -/
theorem requestsIn_ask_of_ok (h : (answer r).run.run session = (.ok a, session')) :
    requestsIn (.ask r next) session = r :: requestsIn (next a) session' := by
  rw [requestsIn, h]

/-- A request that stops the session is the last thing that is asked for. -/
theorem requestsIn_ask_of_error (h : (answer r).run.run session = (.error halt, session')) :
    requestsIn (.ask r next) session = [r] := by
  rw [requestsIn, h]

end Steps

/-! ## What a request leaves behind -/

/-- A question at a terminal, unless the operator interrupts the program. -/
theorem run_askOperator_terminal {t : Terminal} (h : session.desk.confirmer = .terminal t)
    (hquiet : session.interruptAtPrompt = false) (prompt : String) :
    (askOperator prompt).run.run session = (.ok (t.confirm prompt).1,
      { session with
        desk := { session.desk with confirmer := .terminal (t.confirm prompt).2 } }) := by
  rw [run_askOperator hquiet, run_atDesk]
  simp only [Desk.confirm, h]

/-- A question at a terminal stops the session when the operator interrupts it. -/
theorem run_askOperator_interrupted {t : Terminal} (h : session.desk.confirmer = .terminal t)
    (hinterrupt : session.interruptAtPrompt = true) (prompt : String) :
    ∃ session', (askOperator prompt).run.run session = (.error .interrupted, session') := by
  obtain ⟨client, ⟨palette, confirmer, serial, reboot, reboots, transcript⟩, interrupt⟩ := session
  obtain rfl : confirmer = .terminal t := h
  obtain rfl : interrupt = true := hinterrupt
  exact ⟨_, rfl⟩

/-- Consent in advance answers every question, whether or not the operator would interrupt it. -/
theorem run_askOperator_automatic (session : Session σ)
    (h : session.desk.confirmer = .automatic) (prompt : String) :
    (askOperator prompt).run.run session =
      (.ok true, { session with desk := (session.desk.confirm prompt).2 }) := by
  obtain ⟨client, ⟨palette, confirmer, serial, reboot, reboots, transcript⟩, interrupt⟩ := session
  obtain rfl : confirmer = .automatic := h
  rfl

/-- Only questions are put to the one who answers them. -/
theorem confirmer_answer (session : Session σ) {r : Request} (hquestion : r.asks = false) :
    ((answer r).run.run session).2.desk.confirmer = session.desk.confirmer := by
  cases r with
  | confirm prompt => cases hquestion
  | call call =>
    simp only [answer, run_callDaemon]
    cases Daemon.invoke call session.client <;> rfl
  | _ => rfl

/-- A question changes who answers the next one and what is shown, and nothing else. -/
theorem askOperator_frame (session : Session σ) (prompt : String) :
    ∃ confirmer transcript, ((askOperator prompt).run.run session).2 =
      { session with desk := { session.desk with confirmer, transcript } } := by
  obtain ⟨client, ⟨palette, confirmer, serial, reboot, reboots, transcript⟩, interrupt⟩ := session
  cases confirmer with
  | automatic => exact ⟨_, _, rfl⟩
  | terminal t => cases interrupt <;> exact ⟨_, _, rfl⟩

/-! ## Requests that disrupt -/

/-- What a procedure avoids is not asked for in any session. -/
theorem eq_false_of_avoids {marked : Request → Bool} {p : Procedure α} (h : p.Avoids marked)
    {session : Session σ} : ∀ r ∈ requestsIn p session, marked r = false := by
  induction h generalizing session with
  | done a => exact fun _ hr => absurd hr List.not_mem_nil
  | @ask r next hrequest hnext ih =>
    intro r' hr'
    rcases hanswer : (answer r).run.run session with ⟨halt | a, session'⟩
    · rw [requestsIn_ask_of_error hanswer, List.mem_singleton] at hr'
      exact hr' ▸ hrequest
    · rw [requestsIn_ask_of_ok hanswer] at hr'
      rcases List.mem_cons.mp hr' with rfl | hr'
      · exact hrequest
      · exact ih a r' hr'

/-- A procedure under the control of one question that asks for a disruption at a terminal has had
the consent of the lines that were unread. -/
theorem linesConsent_of_disrupts {p : Procedure α} (h : p.Consults) {t : Terminal}
    (hterminal : session.desk.confirmer = .terminal t)
    (hdisrupts : ∃ r ∈ requestsIn p session, r.disrupts = true) : LinesConsent t.unread := by
  obtain ⟨r', hr', hdisrupts⟩ := hdisrupts
  induction h generalizing session with
  | done a => exact absurd hr' List.not_mem_nil
  | @ask r next hquestion hharmless hnext ih =>
    have hconfirmer := (confirmer_answer session hquestion).trans hterminal
    rcases hanswer : (answer r).run.run session with ⟨halt | a, session'⟩
    · rw [requestsIn_ask_of_error hanswer, List.mem_singleton] at hr'
      rw [hr', hharmless] at hdisrupts
      cases hdisrupts
    · rw [requestsIn_ask_of_ok hanswer] at hr'
      rw [hanswer] at hconfirmer
      rcases List.mem_cons.mp hr' with rfl | hr'
      · rw [hharmless] at hdisrupts
        cases hdisrupts
      · exact ih a hconfirmer hr'
  | @confirm prompt next hagreed hrefused =>
    cases hinterrupt : session.interruptAtPrompt with
    | true =>
      obtain ⟨_, hanswer⟩ := run_askOperator_interrupted hterminal hinterrupt prompt
      rw [requestsIn_ask_of_error (r := .confirm prompt) hanswer, List.mem_singleton] at hr'
      rw [hr'] at hdisrupts
      cases hdisrupts
    | false =>
      have hanswer := run_askOperator_terminal hterminal hinterrupt prompt
      rw [requestsIn_ask_of_ok (r := .confirm prompt) hanswer] at hr'
      rcases List.mem_cons.mp hr' with rfl | hr'
      · cases hdisrupts
      cases hanswer : (t.confirm prompt).1 with
      | true => exact consents_of_confirm hanswer
      | false =>
        -- After a refusal nothing disrupts.
        rw [hanswer] at hr'
        rw [eq_false_of_avoids hrefused r' hr'] at hdisrupts
        cases hdisrupts

/-! ## What reaches the daemon -/

/-- Whether a text is a request that demotes this node or the other one. -/
def IsDemotion (text : String) : Prop :=
  ∃ id, ∃ call : Daemon.Call, call.demotes = true ∧
    text = Rpc.Request.text ⟨id, call.method, call.args⟩

/-- The text of a call tells whether it demotes a node. -/
theorem demotes_of_isDemotion {id : UInt64} {call : Daemon.Call}
    (h : IsDemotion (Rpc.Request.text ⟨id, call.method, call.args⟩)) : call.demotes = true := by
  obtain ⟨id', call', hdemotes, htext⟩ := h
  obtain ⟨hmethod, hstring⟩ := Rpc.method_and_string_eq_of_text_eq htext
  simp only at hmethod hstring
  rw [← hdemotes]
  simp only [Daemon.Call.demotes, hmethod, hstring]

/-- A call makes nothing reach the daemon but its own request. -/
theorem delivered_call (client : Client σ) (method : String) (params : List Json.Value)
    (bounded : Bool) :
    ∀ text ∈ (client.call method params bounded).2.1.delivered,
      text ∈ client.delivered ∨ text = Rpc.Request.text ⟨client.nextId, method, params⟩ := by
  intro text htext
  rw [client.delivered_call, List.mem_append] at htext
  refine htext.imp_right fun hsent => ?_
  split at hsent
  · exact List.mem_singleton.mp hsent
  · cases hsent

/-- A call over a connection leaves the client as the call of its method and arguments leaves it. -/
theorem client_of_invoke {call : Daemon.Call} {client : Client σ}
    {invocation : Daemon.Invocation σ} (h : Daemon.invoke call client = .ok invocation) :
    ∃ bounded, invocation.client = (client.call call.method call.args bounded).2.1 := by
  have hwith {bounded : Bool} {undecided : Except Halt (Daemon.CallOutcome × List Log.Entry)}
      (h : Daemon.invokeWith call bounded client undecided = .ok invocation) :
      invocation.client = (client.call call.method call.args bounded).2.1 := by
    unfold Daemon.invokeWith at h
    cases hresult : (client.call call.method call.args bounded).1 with
    | some result =>
      simp only [hresult] at h
      cases h
      rfl
    | none =>
      simp only [hresult] at h
      cases undecided with
      | error halt => cases h
      | ok outcome =>
        cases h
        rfl
  unfold Daemon.invoke at h
  cases hoptions : call.options with
  | none =>
    simp only [hoptions] at h
    exact ⟨false, hwith h⟩
  | some options =>
    simp only [hoptions] at h
    cases hdeadline : options.localDeadline? with
    | none =>
      simp only [hdeadline] at h
      cases h
    | some deadline =>
      simp only [hdeadline] at h
      exact ⟨true, hwith h⟩

/-- A request delivers nothing but the text of the call that it is. -/
theorem delivered_answer (r : Request) (session : Session σ) :
    ∀ text ∈ ((answer r).run.run session).2.client.delivered,
      text ∈ session.client.delivered ∨
        ∃ call id, r = .call call ∧ text = Rpc.Request.text ⟨id, call.method, call.args⟩ := by
  intro text htext
  cases r with
  | call call =>
    have hsent (bounded : Bool)
        (h : text ∈ (session.client.call call.method call.args bounded).2.1.delivered) :
        text ∈ session.client.delivered ∨ ∃ call' id, Request.call call = .call call' ∧
          text = Rpc.Request.text ⟨id, call'.method, call'.args⟩ := by
      rcases delivered_call _ _ _ _ text h with hbefore | hnew
      · exact .inl hbefore
      · exact .inr ⟨call, _, rfl, hnew⟩
    rw [answer, run_callDaemon] at htext
    cases hinvoke : Daemon.invoke call session.client with
    | ok invocation =>
      simp only [hinvoke] at htext
      obtain ⟨bounded, hclient⟩ := client_of_invoke hinvoke
      have hmem : text ∈ invocation.client.delivered := htext
      rw [hclient] at hmem
      exact hsent bounded hmem
    | error halt =>
      simp only [hinvoke] at htext
      cases halt with
      | waiting => exact hsent false htext
      | overflow => exact .inl htext
      | interrupted => exact .inl htext
  | confirm prompt =>
    obtain ⟨_, _, hframe⟩ := askOperator_frame session prompt
    rw [answer, hframe] at htext
    exact .inl htext
  | _ => exact .inl htext

/-- What reaches the daemon in a session has been asked for as a call. -/
theorem delivered_runIn (p : Procedure α) (session : Session σ) :
    ∀ text ∈ (runIn p session).2.client.delivered,
      text ∈ session.client.delivered ∨
        ∃ call id, .call call ∈ requestsIn p session ∧
          text = Rpc.Request.text ⟨id, call.method, call.args⟩ := by
  induction p generalizing session with
  | done a => exact fun text htext => .inl htext
  | ask r next ih =>
    intro text htext
    have hfirst := delivered_answer r session text
    rcases hanswer : (answer r).run.run session with ⟨halt | a, session'⟩
    · rw [runIn_ask_of_error hanswer] at htext
      rw [requestsIn_ask_of_error hanswer]
      rw [hanswer] at hfirst
      rcases hfirst htext with hbefore | ⟨call, id, rfl, hsent⟩
      · exact .inl hbefore
      · exact .inr ⟨call, id, List.mem_singleton_self _, hsent⟩
    · rw [runIn_ask_of_ok hanswer] at htext
      rw [requestsIn_ask_of_ok hanswer]
      rw [hanswer] at hfirst
      rcases ih a session' text htext with hthen | ⟨call, id, hcall, hsent⟩
      · rcases hfirst hthen with hbefore | ⟨call, id, rfl, hsent⟩
        · exact .inl hbefore
        · exact .inr ⟨call, id, List.mem_cons_self, hsent⟩
      · exact .inr ⟨call, id, List.mem_cons_of_mem _ hcall, hsent⟩

/-- The desk counts the attempts to reboot, and no other request. -/
theorem answer_counts_reboot (r : Request) (session : Session σ) :
    ((answer r).run.run session).2.desk.reboots =
      session.desk.reboots + if r.isReboot then 1 else 0 := by
  cases r with
  | call call =>
    simp only [answer, run_callDaemon]
    cases Daemon.invoke call session.client <;> rfl
  | confirm prompt =>
    obtain ⟨_, _, hframe⟩ := askOperator_frame session prompt
    rw [answer, hframe]
    rfl
  | _ => rfl

/-- Every attempt to reboot has been asked for. -/
theorem reboots_runIn (p : Procedure α) (session : Session σ) :
    (runIn p session).2.desk.reboots =
      session.desk.reboots + (requestsIn p session).countP Request.isReboot := by
  induction p generalizing session with
  | done a => rfl
  | ask r next ih =>
    have hfirst := answer_counts_reboot r session
    rcases hanswer : (answer r).run.run session with ⟨halt | a, session'⟩
    · rw [runIn_ask_of_error hanswer, requestsIn_ask_of_error hanswer, List.countP_cons]
      rw [hanswer] at hfirst
      simpa using hfirst
    · rw [runIn_ask_of_ok hanswer, requestsIn_ask_of_ok hanswer, ih, List.countP_cons]
      rw [hanswer] at hfirst
      simp only at hfirst
      omega

/-! ## Sessions that run alike -/

/-- Sessions on one connection with one firmware and one power switch. Who answers questions, and
what has been shown, may differ. -/
structure Session.Matches (session session' : Session σ) : Prop where
  client : session.client = session'.client
  serial : session.desk.serial = session'.desk.serial
  reboot : session.desk.reboot = session'.desk.reboot
  reboots : session.desk.reboots = session'.desk.reboots

/-- A procedure asks for the same in both sessions, comes to the same, and leaves them alike. -/
structure SameCourse (p : Procedure α) (session session' : Session σ) : Prop where
  result : (runIn p session).1 = (runIn p session').1
  requests : requestsIn p session = requestsIn p session'
  remains : (runIn p session).2.Matches (runIn p session').2

/-- Everything but a question is answered alike. -/
theorem Session.Matches.answer {r : Request} (hquestion : r.asks = false)
    (h : session.Matches session') :
    ((answer r).run.run session).1 = ((answer r).run.run session').1 ∧
      ((answer r).run.run session).2.Matches ((answer r).run.run session').2 := by
  obtain ⟨hclient, hserial, hreboot, hreboots⟩ := h
  cases r with
  | confirm prompt => cases hquestion
  | call call =>
    simp only [App.answer, run_callDaemon, hclient]
    cases Daemon.invoke call session'.client with
    | ok invocation => exact ⟨rfl, rfl, hserial, hreboot, hreboots⟩
    | error halt => exact ⟨rfl, rfl, hserial, hreboot, hreboots⟩
  | serial => exact ⟨congrArg Except.ok hserial, hclient, hserial, hreboot, hreboots⟩
  | warn text => exact ⟨rfl, hclient, hserial, hreboot, hreboots⟩
  | reboot =>
    exact ⟨congrArg Except.ok hreboot, hclient, hserial, hreboot, congrArg (· + 1) hreboots⟩
  | log entry => exact ⟨rfl, hclient, hserial, hreboot, hreboots⟩

/-- A procedure that is done does the same in all sessions. -/
theorem sameCourse_done (a : α) (h : session.Matches session') :
    SameCourse (.done a) session session' := ⟨rfl, rfl, h⟩

/-- Where a request is answered alike, what follows decides. -/
theorem sameCourse_ask {r : Request} {next : r.Answer → Procedure α}
    (hresult : ((answer r).run.run session).1 = ((answer r).run.run session').1)
    (hstate : ((answer r).run.run session).2.Matches ((answer r).run.run session').2)
    (hnext : ∀ a, ((answer r).run.run session).1 = .ok a →
      SameCourse (next a) ((answer r).run.run session).2 ((answer r).run.run session').2) :
    SameCourse (.ask r next) session session' := by
  rcases hanswer : (answer r).run.run session with ⟨halt | a, later⟩
  · rcases hanswer' : (answer r).run.run session' with ⟨result', later'⟩
    rw [hanswer, hanswer'] at hresult hstate
    obtain rfl : Except.error halt = result' := hresult
    constructor
    · rw [runIn_ask_of_error hanswer, runIn_ask_of_error hanswer']
    · rw [requestsIn_ask_of_error hanswer, requestsIn_ask_of_error hanswer']
    · rw [runIn_ask_of_error hanswer, runIn_ask_of_error hanswer']
      exact hstate
  · rcases hanswer' : (answer r).run.run session' with ⟨result', later'⟩
    rw [hanswer, hanswer'] at hresult hnext
    obtain rfl : Except.ok a = result' := hresult
    have hrest := hnext a rfl
    constructor
    · rw [runIn_ask_of_ok hanswer, runIn_ask_of_ok hanswer']
      exact hrest.result
    · rw [requestsIn_ask_of_ok hanswer, requestsIn_ask_of_ok hanswer']
      exact congrArg (r :: ·) hrest.requests
    · rw [runIn_ask_of_ok hanswer, runIn_ask_of_ok hanswer']
      exact hrest.remains

/-- A procedure that asks no question does the same whoever would answer it. -/
theorem sameCourse_of_avoids {p : Procedure α} (hp : p.Avoids Request.asks)
    (h : session.Matches session') : SameCourse p session session' := by
  induction hp generalizing session session' with
  | done a => exact sameCourse_done a h
  | ask hquestion hnext ih =>
    obtain ⟨hresult, hstate⟩ := h.answer hquestion
    exact sameCourse_ask hresult hstate fun a _ => ih a hstate

/-- A procedure under the control of one question runs alike where all questions are confirmed and
at a terminal whose unread lines consent. -/
theorem sameCourse_of_consent {p : Procedure α} (hp : p.Consults) {t : Terminal}
    (hautomatic : session.desk.confirmer = .automatic)
    (hterminal : session'.desk.confirmer = .terminal t)
    (hquiet : session'.interruptAtPrompt = false) (hsink : t.sink.Works)
    (hconsent : LinesConsent t.unread) (h : session.Matches session') :
    SameCourse p session session' := by
  induction hp generalizing session session' with
  | done a => exact sameCourse_done a h
  | @ask r next hquestion hharmless hnext ih =>
    obtain ⟨hresult, hstate⟩ := h.answer hquestion
    refine sameCourse_ask hresult hstate fun a _ => ih a ?_ ?_ ?_ hstate
    · exact (confirmer_answer _ hquestion).trans hautomatic
    · exact (confirmer_answer _ hquestion).trans hterminal
    · exact interrupt_answer r hquiet
  | @confirm prompt next hagreed hrefused =>
    have hanswer := run_askOperator_automatic session hautomatic prompt
    have hanswer' := run_askOperator_terminal hterminal hquiet prompt
    rw [(confirm_eq_true_iff hsink).mpr hconsent] at hanswer'
    have hresult : ((answer (.confirm prompt)).run.run session).1 =
        ((answer (.confirm prompt)).run.run session').1 := by
      simp only [answer, hanswer, hanswer']
    have hstate : ((answer (.confirm prompt)).run.run session).2.Matches
        ((answer (.confirm prompt)).run.run session').2 := by
      obtain ⟨_, _, hframe⟩ := askOperator_frame session prompt
      obtain ⟨_, _, hframe'⟩ := askOperator_frame session' prompt
      simp only [answer, hframe, hframe']
      exact ⟨h.client, h.serial, h.reboot, h.reboots⟩
    refine sameCourse_ask hresult hstate fun a ha => ?_
    simp only [answer, hanswer] at ha
    obtain rfl : true = a := Except.ok.inj ha
    exact sameCourse_of_avoids hagreed hstate

/-! ## Input that is not read -/

/-- Where all questions are confirmed, nobody waits for an interrupt at a prompt. -/
theorem answer_automatic (h : session.desk.confirmer = .automatic) (interrupt : Bool)
    (r : Request) :
    (answer r).run.run { session with interruptAtPrompt := interrupt } =
        (((answer r).run.run session).1,
          { ((answer r).run.run session).2 with interruptAtPrompt := interrupt }) ∧
      ((answer r).run.run session).2.desk.confirmer = .automatic := by
  cases r with
  | confirm prompt =>
    have hanswer := run_askOperator_automatic session h prompt
    have hanswer' := run_askOperator_automatic
      { session with interruptAtPrompt := interrupt } h prompt
    have hconfirmer : (session.desk.confirm prompt).2.confirmer = .automatic := by
      simp only [Desk.confirm, h]
      exact h
    simp only [answer, hanswer, hanswer']
    exact ⟨trivial, hconfirmer⟩
  | call call =>
    simp only [answer, run_callDaemon]
    cases Daemon.invoke call session.client with
    | ok invocation => exact ⟨rfl, h⟩
    | error halt => exact ⟨rfl, h⟩
  | _ => exact ⟨rfl, h⟩

/-- With consent in advance nobody is there to interrupt a session. -/
theorem runIn_automatic {p : Procedure α} (h : session.desk.confirmer = .automatic)
    (interrupt : Bool) :
    runIn p { session with interruptAtPrompt := interrupt } =
      ((runIn p session).1, { (runIn p session).2 with interruptAtPrompt := interrupt }) := by
  induction p generalizing session with
  | done a => rfl
  | ask r next ih =>
    obtain ⟨hsame, hconfirmer⟩ := answer_automatic h interrupt r
    rcases hanswer : (answer r).run.run session with ⟨halt | a, session'⟩
    · rw [hanswer] at hsame
      rw [runIn_ask_of_error hanswer, runIn_ask_of_error hsame]
    · rw [hanswer] at hsame hconfirmer
      rw [runIn_ask_of_ok hanswer, runIn_ask_of_ok hsame]
      exact ih a hconfirmer

end FailoverControl.App
