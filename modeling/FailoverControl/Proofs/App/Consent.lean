import FailoverControl.App.Run
import FailoverControl.Proofs.App.Requests
import FailoverControl.Proofs.App.Starting
import FailoverControl.Proofs.CommandLine.Affirmation

/-!
# No disruption without consent

A run disrupts the service when it asks for the demotion of a node or for a reboot of this one. It
does so only when an operator has consented on standard input, or when all questions have been
answered on the command line; and then it runs as if an operator had consented. Neither the
environment nor a file of variables, no other word on the command line and nothing the daemon does
stands in for consent.

The main statement: `disruption_needs_consent`.
-/

set_option autoImplicit false

namespace FailoverControl.App

open FailoverControl.Control (Failure Outcome Request)
open FailoverControl.Daemon (Halt)
open FailoverControl.Operator
open FailoverControl.Rpc (Client)

variable {σ : Type}

/-! ## Whole runs -/

variable {launch : Launch} {machine : Machine} {network : Rpc.Network σ} {startup : Startup}
  {client : Client σ}

/-- What colors and log are settled for are the arguments themselves. -/
theorem arguments_settled {arguments : CommandLine.Arguments} :
    (launch.settled arguments).arguments = arguments := rfl

/-- Without consent in advance questions go to the terminal. -/
theorem confirmer_sessionOver_of_no (machine : Machine) (client : Client σ)
    (h : startup.palette.context.autoConfirm = false) :
    (startup.sessionOver machine client).desk.confirmer =
      .terminal (Terminal.ofInput machine.input Sink.unlimited) := by
  simp [Startup.sessionOver, Startup.desk, h]

/-- With consent in advance questions are agreed to unasked. -/
theorem confirmer_sessionOver_of_yes (machine : Machine) (client : Client σ)
    (h : startup.palette.context.autoConfirm = true) :
    (startup.sessionOver machine client).desk.confirmer = .automatic := by
  simp [Startup.sessionOver, Startup.desk, h]

/-- A fresh connection has not carried anything. -/
theorem delivered_of_connect {uri : String} {timeout : Duration}
    (h : Rpc.connect network uri timeout = .ok client) : client.delivered = [] := by
  rcases Rpc.connect_cases network uri timeout with
    ⟨server, hconnected⟩ | htimeout | ⟨cause, hfailed⟩
  · rw [hconnected] at h
    obtain rfl := Except.ok.inj h
    rfl
  · rw [htimeout] at h
    cases h
  · rw [hfailed] at h
    cases h

/-- What a run asks its surroundings for, in order. -/
def requested (launch : Launch) (machine : Machine) (network : Rpc.Network σ) : List Request :=
  match launch.start with
  | .error _ => []
  | .ok startup =>
    match Rpc.connect network startup.arguments.uri connectTimeout with
    | .error _ => []
    | .ok client => requestsIn startup.procedure (startup.sessionOver machine client)

/-- What a run comes to, before it is shown: it may be kept from starting, fail to connect, or be
stopped on the way. -/
def outcome (launch : Launch) (machine : Machine) (network : Rpc.Network σ) :
    Except Obstacle (Except Rpc.Failure (Except Halt (Except Failure Outcome))) :=
  launch.start.map fun startup =>
    (Rpc.connect network startup.arguments.uri connectTimeout).map fun client =>
      (runIn startup.procedure (startup.sessionOver machine client)).1

/-- How a process ends after an outcome. -/
def exitOf : Except Obstacle (Except Rpc.Failure (Except Halt (Except Failure Outcome))) → Exit
  | .error (.ending (.misuse _)) => .code 2
  | .error (.ending _) => .code 0
  | .error (.unsettable _) => .crash
  | .ok (.error _) => .code 1
  | .ok (.ok (.error halt)) => (haltConclusion halt).2
  | .ok (.ok (.ok (.error _))) => .code 1
  | .ok (.ok (.ok (.ok _))) => .code 0

/-- A command exits by what it came to, whether or not it is quiet. -/
theorem exit_conclusion (palette : Console.Palette) (quiet : Bool)
    (result : Except Failure Outcome) :
    (conclusion palette quiet result).2 = exitOf (.ok (.ok (.ok result))) := by
  rcases result with failure | (report | executed)
  · cases failure <;> rfl
  · rfl
  · rfl

/-- A session exits by what the command came to or by what stopped it. -/
theorem exit_finished (result : Except Halt (Except Failure Outcome)) (session : Session σ) :
    (startup.finished result session).exit = exitOf (.ok (.ok result)) := by
  cases result with
  | error halt => rfl
  | ok result => exact exit_conclusion _ _ result

/-- What remains of a run over a connection. -/
theorem run_of_connected (machine : Machine) (hstart : launch.start = .ok startup)
    (hconnect : Rpc.connect network startup.arguments.uri connectTimeout = .ok client) :
    (run launch machine network).delivered =
        (runIn startup.procedure (startup.sessionOver machine client)).2.client.delivered ∧
      (run launch machine network).reboots =
        (runIn startup.procedure (startup.sessionOver machine client)).2.desk.reboots ∧
      (run launch machine network).exit =
        exitOf (.ok (.ok (runIn startup.procedure (startup.sessionOver machine client)).1)) := by
  unfold run
  rw [hstart]
  unfold Startup.run
  simp only [hconnect]
  refine ⟨rfl, rfl, ?_⟩
  exact exit_finished _ _

/-- The outcome decides how the process ends. -/
theorem exit_run : (run launch machine network).exit = exitOf (outcome launch machine network) := by
  cases hstart : launch.start with
  | error obstacle =>
    simp only [run, outcome, hstart, Except.map]
    rcases obstacle with ((_ | _ | _) | _) <;> rfl
  | ok startup =>
    cases hconnect : Rpc.connect network startup.arguments.uri connectTimeout with
    | error cause => simp only [run, outcome, hstart, Startup.run, hconnect, Except.map, exitOf]
    | ok client =>
      rw [(run_of_connected machine hstart hconnect).2.2]
      simp only [outcome, hstart, hconnect, Except.map]

/-! ## Consent -/

/-- A run disrupts the service: it asks for a demotion or a reboot, a request that demotes a node
reaches the daemon, or a reboot is attempted. -/
def Disrupts (launch : Launch) (machine : Machine) (network : Rpc.Network σ) : Prop :=
  (∃ r ∈ requested launch machine network, r.disrupts = true) ∨
    (∃ text ∈ (run launch machine network).delivered, IsDemotion text) ∨
    (run launch machine network).reboots ≠ 0

/-- Two runs ask for the same in the same order, reach the daemon with the same requests, attempt as
many reboots, and come to the same end. -/
structure RunAlike (launch launch' : Launch) (machine machine' : Machine)
    (network : Rpc.Network σ) : Prop where
  requested : requested launch machine network = requested launch' machine' network
  delivered :
    (run launch machine network).delivered = (run launch' machine' network).delivered
  reboots : (run launch machine network).reboots = (run launch' machine' network).reboots
  outcome : outcome launch machine network = outcome launch' machine' network
  exit : (run launch machine network).exit = (run launch' machine' network).exit

/-- The same launch without the switch that answers all questions. -/
def Launch.withoutYes (launch : Launch) : Launch :=
  { launch with arguments := CommandLine.withoutYes launch.arguments }

/-- Whatever a run over a connection disrupts, it has asked for. -/
theorem requests_of_disrupts (hstart : launch.start = .ok startup)
    (hconnect : Rpc.connect network startup.arguments.uri connectTimeout = .ok client)
    (h : Disrupts launch machine network) :
    ∃ r ∈ requestsIn startup.procedure (startup.sessionOver machine client),
      r.disrupts = true := by
  obtain ⟨hdelivered, hreboots, -⟩ := run_of_connected machine hstart hconnect
  rcases h with hrequested | ⟨text, htext, hdemotion⟩ | hattempted
  · simpa only [requested, hstart, hconnect] using hrequested
  · rw [hdelivered] at htext
    rcases delivered_runIn _ _ text htext with hbefore | ⟨call, id, hcall, rfl⟩
    · have hfresh : text ∈ client.delivered := hbefore
      rw [delivered_of_connect hconnect] at hfresh
      cases hfresh
    · exact ⟨.call call, hcall, demotes_of_isDemotion hdemotion⟩
  · rw [hreboots, reboots_runIn] at hattempted
    have hcount : 0 < (requestsIn startup.procedure
        (startup.sessionOver machine client)).countP Request.isReboot := by
      have hnone : (startup.sessionOver machine client).desk.reboots = 0 := rfl
      omega
    obtain ⟨r, hr, hreboot⟩ := List.countP_pos_iff.mp hcount
    refine ⟨r, hr, ?_⟩
    cases r <;> first | rfl | cases hreboot

/-- A run that is kept from starting asks for nothing and does nothing. -/
theorem not_disrupts_of_refused {obstacle : Obstacle} (hstart : launch.start = .error obstacle) :
    ¬ Disrupts launch machine network := by
  rintro (⟨r, hr, -⟩ | ⟨text, htext, -⟩ | hattempted)
  · simp [requested, hstart] at hr
  · cases obstacle <;> simp [run, hstart, Launch.unstarted] at htext
  · cases obstacle <;> simp [run, hstart, Launch.unstarted] at hattempted

/-- A run without a connection asks for nothing and does nothing. -/
theorem not_disrupts_of_unconnected {cause : Rpc.Failure} (hstart : launch.start = .ok startup)
    (hconnect : Rpc.connect network startup.arguments.uri connectTimeout = .error cause) :
    ¬ Disrupts launch machine network := by
  rintro (⟨r, hr, -⟩ | ⟨text, htext, -⟩ | hattempted)
  · simp [requested, hstart, hconnect] at hr
  · simp [run, hstart, Startup.run, hconnect] at htext
  · simp [run, hstart, Startup.run, hconnect] at hattempted

/-- Without the switch a run that disrupts the service has been allowed to. -/
theorem consents_of_disrupts (hnamed : ¬ CommandLine.SaysYes launch.arguments)
    (h : Disrupts launch machine network) : Consents machine.input := by
  cases hstart : launch.start with
  | error obstacle => exact absurd h (not_disrupts_of_refused hstart)
  | ok startup =>
    obtain ⟨arguments, hparse, -, rfl⟩ := start_eq_ok_iff.mp hstart
    have hno : arguments.yes = false := by
      rw [← Bool.not_eq_true, CommandLine.parse_yes_iff hparse]
      exact hnamed
    cases hconnect : Rpc.connect network arguments.uri connectTimeout with
    | error cause => exact absurd h (not_disrupts_of_unconnected hstart hconnect)
    | ok client =>
      have hautoConfirm : (launch.settled arguments).palette.context.autoConfirm = false := hno
      have hterminal := confirmer_sessionOver_of_no machine client hautoConfirm
      exact linesConsent_of_disrupts (Control.consults_dispatch _ _) hterminal
        (requests_of_disrupts hstart hconnect h)

/-- A command that asks no questions does not depend on the input. -/
theorem command_eq_of_yes (hyes : startup.palette.context.autoConfirm = true)
    (input : List UInt8) (interrupt : Bool) :
    startup.command { machine with input, interruptAtPrompt := interrupt } client =
      startup.command machine client := by
  have hsession :
      startup.sessionOver { machine with input, interruptAtPrompt := interrupt } client =
        { startup.sessionOver machine client with interruptAtPrompt := interrupt } := by
    simp [Startup.sessionOver, Startup.desk, hyes]
  have hrun := runIn_automatic (p := startup.procedure)
    (confirmer_sessionOver_of_yes machine client hyes) interrupt
  rw [← hsession] at hrun
  unfold Startup.command
  rw [hrun]
  rfl

/-- With the switch a run reads no input. -/
theorem run_eq_of_saysYes (hnamed : CommandLine.SaysYes launch.arguments) (input : List UInt8)
    (interrupt : Bool) :
    run launch { machine with input, interruptAtPrompt := interrupt } network =
      run launch machine network := by
  cases hstart : launch.start with
  | error obstacle => simp only [run, hstart]
  | ok startup =>
    obtain ⟨arguments, hparse, -, rfl⟩ := start_eq_ok_iff.mp hstart
    have hyes : arguments.yes = true := (CommandLine.parse_yes_iff hparse).mpr hnamed
    have hcommand (client : Client σ) :
        (launch.settled arguments).command
            { machine with input, interruptAtPrompt := interrupt } client =
          (launch.settled arguments).command machine client :=
      command_eq_of_yes hyes input interrupt
    simp only [run, hstart, Startup.run, hcommand]

/-- With the switch a run goes as it goes without the switch when an operator consents. -/
theorem runAlike_withoutYes (hnamed : CommandLine.SaysYes launch.arguments)
    {arguments : CommandLine.Arguments}
    (hparse : CommandLine.parse launch.arguments launch.uriValue = .ok arguments)
    (hsettable : launch.unsettable? = none) {input : List UInt8} (hconsents : Consents input) :
    RunAlike launch launch.withoutYes machine { machine with input, interruptAtPrompt := false }
      network := by
  have hyes : arguments.yes = true := (CommandLine.parse_yes_iff hparse).mpr hnamed
  have hparse' := CommandLine.parse_withoutYes hparse
  have hstart := start_of_parse hparse hsettable
  have hstart' : launch.withoutYes.start =
      .ok (launch.withoutYes.settled { arguments with yes := false }) :=
    start_of_parse hparse' hsettable
  cases hconnect : Rpc.connect network arguments.uri connectTimeout with
  | error cause =>
    have houtcome : outcome launch machine network = outcome launch.withoutYes
        { machine with input, interruptAtPrompt := false } network := by
      simp only [outcome, hstart, hstart', arguments_settled, hconnect, Except.map]
    constructor
    case outcome => exact houtcome
    case exit => rw [exit_run, exit_run, houtcome]
    case requested => simp only [requested, hstart, hstart', arguments_settled, hconnect]
    all_goals simp only [run, hstart, hstart', Startup.run, arguments_settled, hconnect]
  | ok client =>
    have hcourse : SameCourse (launch.settled arguments).procedure
        ((launch.settled arguments).sessionOver machine client)
        ((launch.withoutYes.settled { arguments with yes := false }).sessionOver
          { machine with input, interruptAtPrompt := false } client) :=
      sameCourse_of_consent (Control.consults_dispatch _ _)
        (confirmer_sessionOver_of_yes machine client hyes)
        (confirmer_sessionOver_of_no _ client rfl) rfl ⟨rfl, rfl⟩ hconsents ⟨rfl, rfl, rfl, rfl⟩
    obtain ⟨hdelivered, hreboots, -⟩ := run_of_connected machine hstart hconnect
    obtain ⟨hdelivered', hreboots', -⟩ := run_of_connected
      { machine with input, interruptAtPrompt := false } hstart' hconnect
    have houtcome : outcome launch machine network = outcome launch.withoutYes
        { machine with input, interruptAtPrompt := false } network := by
      simp only [outcome, hstart, hstart', arguments_settled, hconnect, Except.map]
      exact congrArg (Except.ok ∘ Except.ok) hcourse.result
    constructor
    case outcome => exact houtcome
    case exit => rw [exit_run, exit_run, houtcome]
    case requested =>
      simp only [requested, hstart, hstart', arguments_settled, hconnect]
      exact hcourse.requests
    case delivered =>
      rw [hdelivered, hdelivered']
      exact congrArg Client.delivered hcourse.remains.client
    case reboots =>
      rw [hreboots, hreboots']
      exact hcourse.remains.reboots

/-- Without the switch no run disrupts the service unless the first line of standard input that is
no text, or a plain yes or no, is a yes. With the switch a run reads nothing; it asks for the same,
reaches the daemon with the same and comes to the same as the run without the switch whose input
begins with such a line, and when the command line is refused it asks for nothing. -/
theorem disruption_needs_consent (launch : Launch) (machine : Machine)
    (network : Rpc.Network σ) :
    (¬ CommandLine.SaysYes launch.arguments → Disrupts launch machine network →
        Consents machine.input) ∧
      (CommandLine.SaysYes launch.arguments →
        (∀ input interrupt, run launch { machine with input, interruptAtPrompt := interrupt }
          network = run launch machine network) ∧
        (∀ ending, launch.start = .error ending → requested launch machine network = [] ∧
          ¬ Disrupts launch machine network) ∧
        ∀ startup, launch.start = .ok startup →
          ¬ CommandLine.SaysYes launch.withoutYes.arguments ∧
          ∀ input, Consents input → RunAlike launch launch.withoutYes machine
            { machine with input, interruptAtPrompt := false } network) := by
  refine ⟨fun hnamed => consents_of_disrupts hnamed, fun hnamed => ⟨?_, ?_, ?_⟩⟩
  · exact run_eq_of_saysYes hnamed
  · intro ending hstart
    exact ⟨by simp only [requested, hstart], not_disrupts_of_refused hstart⟩
  · intro startup hstart
    obtain ⟨arguments, hparse, hsettable, -⟩ := start_eq_ok_iff.mp hstart
    refine ⟨?_, fun input hconsents => runAlike_withoutYes hnamed hparse hsettable hconsents⟩
    have hoff := CommandLine.parse_yes_iff (CommandLine.parse_withoutYes hparse)
    exact fun hnamed' => Bool.false_ne_true (hoff.mpr hnamed')

/-! ## A giveback -/

/-- The network of an active node of a healthy cluster. -/
def activeNetwork : Rpc.Network Nat where
  dial _ _ := .connected fun _ =>
    { greeting := .upgraded
      before := []
      reaction _ n :=
        (match n with
          | 0 => [.text "\x7b\"id\":1,\"result\":true\x7d"]
          | 1 => [.text "\x7b\"id\":2,\"result\":\x7b\"disabled\":false\x7d\x7d"]
          | 2 => [.text "\x7b\"id\":3,\"result\":\"MASTER\"\x7d"]
          | 3 => [.text "\x7b\"id\":4,\"result\":[]\x7d"]
          | _ => [.text "\x7b\"id\":5,\"result\":null\x7d"], n + 1)
      state := 0 }

/-- A giveback with consent in advance. -/
def givebackLaunch : Launch := ⟨["-y", "giveback"], ⟨[]⟩, none, false⟩

/-- A machine on whose standard input the given text is typed. -/
def typing (text : String) : Machine := ⟨.missing, .ok (), Text.bytes text, false⟩

/-- A giveback reboots this node when all questions have been answered, and without the switch it
does so since the second line that is typed is a yes. -/
theorem disruption_needs_consent_giveback :
    (CommandLine.SaysYes givebackLaunch.arguments ∧
        (run givebackLaunch (typing "") activeNetwork).reboots = 1) ∧
      (¬ CommandLine.SaysYes givebackLaunch.withoutYes.arguments ∧
        Disrupts givebackLaunch.withoutYes (typing "hm\nYES\n") activeNetwork) ∧
      Consents (typing "hm\nYES\n").input := by
  have hnamed : CommandLine.SaysYes givebackLaunch.arguments :=
    ⟨"-y", by decide, .inr ⟨'y', [], rfl, by decide, by decide⟩⟩
  have hreboots : (run givebackLaunch (typing "") activeNetwork).reboots = 1 := by decide +kernel
  have hconsents : Consents (Text.bytes "hm\nYES\n") := by
    refine ⟨[Text.bytes "hm\n"], Text.bytes "YES\n", [], "YES\n", by decide, ?_, ?_, by decide⟩
    · rintro _ (_ | ⟨_, ⟨⟩⟩) hdecisive
      exact absurd (hdecisive "hm\n" (Text.ofBytes?_bytes _)) (by decide)
    · exact Text.ofBytes?_bytes _
  have hstart : givebackLaunch.start = .ok (givebackLaunch.settled
      ⟨.perform .giveback, false, CommandLine.standardUri, 2, 2, 0, true⟩) := start_of_parse rfl rfl
  obtain ⟨-, -, hwithout⟩ :=
    (disruption_needs_consent givebackLaunch (typing "") activeNetwork).2 hnamed
  obtain ⟨hnamed', halike⟩ := hwithout _ hstart
  have hattempted :
      (run givebackLaunch.withoutYes (typing "hm\nYES\n") activeNetwork).reboots = 1 :=
    (halike _ hconsents).reboots.symm.trans hreboots
  have hdisrupts : Disrupts givebackLaunch.withoutYes (typing "hm\nYES\n") activeNetwork := by
    refine .inr (.inr ?_)
    rw [hattempted]
    exact Nat.one_ne_zero
  have hneeds := (disruption_needs_consent givebackLaunch.withoutYes (typing "hm\nYES\n")
    activeNetwork).1 hnamed' hdisrupts
  exact ⟨⟨hnamed, hreboots⟩, ⟨hnamed', hdisrupts⟩, hneeds⟩

end FailoverControl.App
