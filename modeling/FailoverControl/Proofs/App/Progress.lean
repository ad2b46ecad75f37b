import FailoverControl.Proofs.App.Requests
import FailoverControl.Proofs.Control.Completion

/-!
# How far a session gets

A session answers the requests of a procedure one after the other until the procedure is done or a
request stops the program. What it has answered until then is the beginning of a course of the
procedure, and the whole course when the procedure is done.

The main statement: a session in which a command runs completes it in one of the ways in which a
command may end, or is stopped before anything has been altered (`completion_or_idle`).
-/

set_option autoImplicit false

namespace FailoverControl.App

open FailoverControl.Control
open FailoverControl.Daemon (CallOptions Halt)

variable {σ α : Type}

/-- A session answers requests of a procedure, and is left with the rest of the procedure. -/
inductive Proceeds :
    Procedure α → Session σ → List Exchange → Procedure α → Session σ → Prop
  | refl (p : Procedure α) (session : Session σ) : Proceeds p session [] p session
  | ask {r : Request} {next : r.Answer → Procedure α} {a : r.Answer}
      {session later final : Session σ} {exchanges : List Exchange} {left : Procedure α}
      (hanswer : (answer r).run.run session = (.ok a, later))
      (hrest : Proceeds (next a) later exchanges left final) :
      Proceeds (.ask r next) session (⟨r, a⟩ :: exchanges) left final

/-- The requests of a procedure that are answered in a session, with their answers. -/
def exchangesIn : Procedure α → Session σ → List Exchange
  | .done _, _ => []
  | .ask r next, session =>
    match (answer r).run.run session with
    | (.ok a, session) => ⟨r, a⟩ :: exchangesIn (next a) session
    | (.error _, _) => []

/-- A request that is answered is the first exchange. -/
theorem exchangesIn_ask_of_ok {r : Request} {next : r.Answer → Procedure α} {a : r.Answer}
    {session later : Session σ} (h : (answer r).run.run session = (.ok a, later)) :
    exchangesIn (.ask r next) session = ⟨r, a⟩ :: exchangesIn (next a) later := by
  rw [exchangesIn, h]

/-- A request that stops the session is no exchange. -/
theorem exchangesIn_ask_of_error {r : Request} {next : r.Answer → Procedure α} {halt : Halt}
    {session later : Session σ} (h : (answer r).run.run session = (.error halt, later)) :
    exchangesIn (.ask r next) session = [] := by
  rw [exchangesIn, h]

namespace Proceeds

variable {p left : Procedure α} {session final : Session σ} {exchanges : List Exchange}

/-- A session comes to what is left of it comes to. -/
theorem runIn_eq (h : Proceeds p session exchanges left final) :
    runIn p session = runIn left final := by
  induction h with
  | refl p session => rfl
  | ask hanswer _ ih => rw [runIn_ask_of_ok hanswer, ih]

/-- A session asks for what it has been answered, and then for what is left of it. -/
theorem requestsIn_eq (h : Proceeds p session exchanges left final) :
    requestsIn p session = exchanges.map Exchange.request ++ requestsIn left final := by
  induction h with
  | refl p session => rfl
  | ask hanswer _ ih => rw [requestsIn_ask_of_ok hanswer, ih, List.map_cons, List.cons_append]

/-- A session exchanges what it has exchanged, and then what is left of it. -/
theorem exchangesIn_eq (h : Proceeds p session exchanges left final) :
    exchangesIn p session = exchanges ++ exchangesIn left final := by
  induction h with
  | refl p session => rfl
  | ask hanswer _ ih => rw [exchangesIn_ask_of_ok hanswer, ih, List.cons_append]

/-- What has been answered begins every course of the procedure that goes on as the rest does. -/
theorem course (h : Proceeds p session exchanges left final) {rest : List Exchange} {a : α}
    (hrest : left.Course rest a) : p.Course (exchanges ++ rest) a := by
  induction h with
  | refl p session => exact hrest
  | ask hanswer _ ih => exact .ask (ih hrest)

/-- A session that has answered a request has come to it. -/
theorem split {before after : List Exchange} {r : Request} {a : r.Answer}
    (h : Proceeds p session (before ++ ⟨r, a⟩ :: after) left final) :
    ∃ next middle later, Proceeds p session before (.ask r next) middle ∧
      (answer r).run.run middle = (.ok a, later) ∧ Proceeds (next a) later after left final := by
  induction before generalizing p session with
  | nil =>
    cases h with
    | ask hanswer hrest => exact ⟨_, _, _, .refl _ _, hanswer, hrest⟩
  | cons e before ih =>
    cases h with
    | ask hanswer hrest =>
      obtain ⟨next, middle, later, hbefore, hmiddle, hafter⟩ := ih hrest
      exact ⟨next, middle, later, .ask hanswer hbefore, hmiddle, hafter⟩

end Proceeds

/-- How a session ends: the procedure is done, or a request stops the program. -/
inductive EndsIn (p : Procedure α) (session : Session σ) : Except Halt α × Session σ → Prop
  | done {a : α} {final : Session σ}
      (hproceeds : Proceeds p session (exchangesIn p session) (.done a) final) :
      EndsIn p session (.ok a, final)
  | stopped {r : Request} {next : r.Answer → Procedure α} {later final : Session σ} {halt : Halt}
      (hproceeds : Proceeds p session (exchangesIn p session) (.ask r next) later)
      (hanswer : (answer r).run.run later = (.error halt, final)) :
      EndsIn p session (.error halt, final)

/-- Every session ends, either with what the procedure is done with or at a request that stops it.
-/
theorem endsIn_runIn (p : Procedure α) (session : Session σ) :
    EndsIn p session (runIn p session) := by
  induction p generalizing session with
  | done a => exact .done (.refl _ _)
  | ask r next ih =>
    rcases hanswer : (answer r).run.run session with ⟨halt | a, later⟩
    · rw [runIn_ask_of_error hanswer]
      have hnothing : Proceeds (.ask r next) session (exchangesIn (.ask r next) session)
          (.ask r next) session := by
        rw [exchangesIn_ask_of_error hanswer]
        exact .refl _ _
      exact .stopped hnothing hanswer
    · have hstep {left : Procedure α} {final : Session σ}
          (h : Proceeds (next a) later (exchangesIn (next a) later) left final) :
          Proceeds (.ask r next) session (exchangesIn (.ask r next) session) left final := by
        rw [exchangesIn_ask_of_ok hanswer]
        exact .ask hanswer h
      have hrest := ih a later
      rw [runIn_ask_of_ok hanswer]
      generalize runIn (next a) later = ended at hrest ⊢
      cases hrest with
      | done hproceeds => exact .done (hstep hproceeds)
      | stopped hproceeds hstopped => exact .stopped (hstep hproceeds) hstopped

/-- Every session proceeds over all of its exchanges. -/
theorem exists_proceeds (p : Procedure α) (session : Session σ) :
    ∃ left final, Proceeds p session (exchangesIn p session) left final := by
  have hends := endsIn_runIn p session
  generalize runIn p session = ended at hends
  cases hends with
  | done hproceeds => exact ⟨_, _, hproceeds⟩
  | stopped hproceeds _ => exact ⟨_, _, hproceeds⟩

/-- The answers of a procedure that is done are a course of it. -/
theorem course_of_runIn {p : Procedure α} {session : Session σ} {a : α}
    (h : (runIn p session).1 = .ok a) : p.Course (exchangesIn p session) a := by
  have hends := endsIn_runIn p session
  generalize hrun : runIn p session = ended at hends h
  cases hends with
  | done hproceeds =>
    obtain rfl := Except.ok.inj h
    have hcourse := hproceeds.course (.done _)
    rwa [List.append_nil] at hcourse
  | stopped hproceeds hanswer => cases h

/-! ## Reboots -/

/-- A reboot is answered with what the desk says of it. -/
theorem answer_reboot (session : Session σ) :
    ∃ later, (answer .reboot).run.run session = (.ok session.desk.reboot, later) :=
  ⟨_, rfl⟩

/-- A reboot never stops a session. -/
theorem answer_reboot_ne_error {session final : Session σ} {halt : Halt} :
    (answer .reboot).run.run session ≠ (.error halt, final) := by
  obtain ⟨later, hanswer⟩ := answer_reboot session
  rw [hanswer]
  intro h
  cases (Prod.mk.inj h).1

/-- How a reboot would end is decided before the session begins. -/
theorem answer_keeps_reboot (r : Request) (session : Session σ) :
    ((answer r).run.run session).2.desk.reboot = session.desk.reboot := by
  cases r with
  | call call =>
    simp only [answer, run_callDaemon]
    cases Daemon.invoke call session.client <;> rfl
  | confirm prompt =>
    obtain ⟨_, _, hframe⟩ := askOperator_frame session prompt
    rw [answer, hframe]
  | _ => rfl

/-- Every reboot of a session ends as the desk says. -/
theorem eq_reboot_of_mem {p : Procedure α} {session : Session σ}
    {outcome : Except Host.IoError Unit} (h : ⟨.reboot, outcome⟩ ∈ exchangesIn p session) :
    outcome = session.desk.reboot := by
  induction p generalizing session with
  | done a => exact absurd h List.not_mem_nil
  | ask r next ih =>
    rcases hanswer : (answer r).run.run session with ⟨halt | a, later⟩
    · rw [exchangesIn_ask_of_error hanswer] at h
      exact absurd h List.not_mem_nil
    · rw [exchangesIn_ask_of_ok hanswer] at h
      have hkept := answer_keeps_reboot r session
      rw [hanswer] at hkept
      rcases List.mem_cons.mp h with heq | hlater
      · obtain ⟨rfl, hsame⟩ := Exchange.mk.inj heq
        obtain rfl := eq_of_heq hsame
        obtain ⟨later', hreboot⟩ := answer_reboot session
        rw [hreboot] at hanswer
        exact (Except.ok.inj (Prod.mk.inj hanswer).1).symm
      · rw [ih a hlater]
        exact hkept

/-- Every reboot that is asked for is answered. -/
theorem countP_requestsIn (p : Procedure α) (session : Session σ) :
    (requestsIn p session).countP Request.isReboot =
      (exchangesIn p session).countP Exchange.isReboot := by
  induction p generalizing session with
  | done a => rfl
  | ask r next ih =>
    rcases hanswer : (answer r).run.run session with ⟨halt | a, later⟩
    · have hother : r.isReboot = false := by
        cases r with
        | reboot => exact absurd hanswer answer_reboot_ne_error
        | _ => rfl
      rw [requestsIn_ask_of_error hanswer, exchangesIn_ask_of_error hanswer]
      simp [hother]
    · have hsame : r.isReboot = Exchange.isReboot ⟨r, a⟩ := rfl
      rw [requestsIn_ask_of_ok hanswer, exchangesIn_ask_of_ok hanswer, List.countP_cons,
        List.countP_cons, ih, hsame]

/-- The attempts to reboot are those that have been answered. -/
theorem reboots_eq (p : Procedure α) (session : Session σ) :
    (runIn p session).2.desk.reboots =
      session.desk.reboots + (exchangesIn p session).countP Exchange.isReboot := by
  rw [reboots_runIn, countP_requestsIn]

/-! ## Commands -/

/-- What is in front of a further exchange of a command alters nothing, unless that exchange is the
reboot. -/
theorem idle_of_goesOn {command : Command} {result : Except Failure Outcome}
    {before rest : List Exchange} {e : Exchange}
    (h : Completion command (before ++ e :: rest) result) :
    Idle before ∨ e.request = .reboot := by
  have hidle {first : List Exchange} (hfirst : Idle first) (hbegins : before <+: first) :
      Idle before := fun e he => hfirst e (hbegins.subset he)
  -- Something is behind what is in front, so it ends in front of the last exchange.
  have hshorter {first : List Exchange} {last : Exchange}
      (h : before ++ e :: rest = first ++ [last]) : before <+: first := by
    rcases List.prefix_concat_iff.mp ⟨e :: rest, h⟩ with heq | hbegins
    · have hlength := congrArg List.length h
      rw [heq] at hlength
      simp at hlength
    · exact hbegins
  generalize hall : before ++ e :: rest = exchanges at h
  cases h with
  | reported hexchanges =>
    exact .inl (hidle hexchanges ⟨e :: rest, hall⟩)
  | spared hexchanges _ =>
    exact .inl (hidle hexchanges ⟨e :: rest, hall⟩)
  | refused hfirst => exact .inl (hidle hfirst (hshorter hall))
  | changed hfirst hstays => exact .inl (hidle hfirst (hshorter hall))
  | @handedOver first value outcome hfirst =>
    have hlast : before ++ e :: rest =
        (first ++ [⟨.call (Action.mutation .giveback), .ok value⟩]) ++ [⟨.reboot, outcome⟩] := by
      rw [hall, List.append_assoc]
      rfl
    rcases List.prefix_concat_iff.mp (hshorter hlast) with heq | hbegins
    · rw [heq, List.append_cancel_left_eq] at hlast
      obtain ⟨rfl, -⟩ := List.cons.inj hlast
      exact .inr rfl
    · exact .inl (hidle hfirst hbegins)

/-- A session completes a command, or is stopped before it has altered anything. -/
theorem completion_or_idle (command : Command) (options : CallOptions) (session : Session σ) :
    (∃ result, (runIn (dispatch command options).run session).1 = .ok result ∧
        Completion command (exchangesIn (dispatch command options).run session) result) ∨
      ∃ halt, (runIn (dispatch command options).run session).1 = .error halt ∧
        Idle (exchangesIn (dispatch command options).run session) := by
  have hends := endsIn_runIn (dispatch command options).run session
  generalize hrun : runIn (dispatch command options).run session = ended at hends
  cases hends with
  | @done result final hproceeds =>
    have hcourse := course_of_runIn (congrArg Prod.fst hrun)
    exact .inl ⟨result, rfl, completion_of_course hcourse⟩
  | @stopped r next later final halt hproceeds hanswer =>
    refine .inr ⟨halt, rfl, ?_⟩
    obtain ⟨rest, a, hrest⟩ := Procedure.exists_course (.ask r next)
    obtain ⟨reply, behind, hbehind, rfl⟩ := Procedure.course_ask_iff.mp hrest
    rcases idle_of_goesOn (completion_of_course (hproceeds.course hrest)) with hidle | hreboot
    · exact hidle
    · obtain rfl : r = .reboot := hreboot
      exact absurd hanswer answer_reboot_ne_error

end FailoverControl.App
