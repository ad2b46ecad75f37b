import FailoverControl.Proofs.App.Consent
import FailoverControl.Proofs.App.Progress
import FailoverControl.Proofs.Rpc.Granting

/-!
# What is taken for success

An action has been carried out when the daemon has granted its one change, and a giveback when the
reboot that follows has been started, too. Nothing else is taken for success: the first thing that
decides the call for the change has to be a message with the id of the call and without a fault.
Such a message need not have a result, so an answer that says nothing at all about the change counts
as success (`executed_of_bareAnswers`).

The main statement: `executed_iff_granted`.
-/

set_option autoImplicit false

namespace FailoverControl.App

open FailoverControl.Control
open FailoverControl.Daemon
open FailoverControl.Host (IoError)
open FailoverControl.Json (Value)
open FailoverControl.Operator (outText)

variable {σ α : Type} {action : Action} {options : CallOptions} {session : Session σ}

/-! ## Granted changes -/

/-- A session comes to ask for the change of an action, and the change is granted. -/
def ChangeGranted (action : Action) (options : CallOptions) (session : Session σ) : Prop :=
  ∃ exchanges next before value,
    Proceeds (dispatch (.perform action) options).run session exchanges
        (.ask (.call action.mutation) next) before ∧
      before.client.Granted action.mutation.method action.mutation.args value

/-- An unbounded call is answered with a value exactly when the connection grants it. -/
theorem answer_call_eq_ok_iff {call : Call} (hunbounded : call.options = none) {value : Value} :
    (∃ later, (answer (.call call)).run.run session = (.ok (.ok value), later)) ↔
      session.client.Granted call.method call.args value := by
  rw [← invoke_eq_ok_iff hunbounded]
  constructor
  · rintro ⟨later, hanswer⟩
    obtain ⟨invocation, hinvoke, houtcome, -⟩ := answer_call_iff.mp hanswer
    exact ⟨invocation, hinvoke, houtcome⟩
  · rintro ⟨invocation, hinvoke, houtcome⟩
    exact ⟨_, answer_call_iff.mpr ⟨invocation, hinvoke, houtcome, rfl⟩⟩

/-- No change is bounded. -/
theorem options_mutation (action : Action) : action.mutation.options = none := by
  cases action <;> rfl

/-- A change that is granted has been answered well. -/
theorem changeGranted_iff :
    ChangeGranted action options session ↔
      ∃ value, ⟨.call action.mutation, .ok value⟩ ∈
        exchangesIn (dispatch (.perform action) options).run session := by
  constructor
  · rintro ⟨exchanges, next, before, value, hproceeds, hgranted⟩
    obtain ⟨later, hanswer⟩ := (answer_call_eq_ok_iff (options_mutation action)).mpr hgranted
    refine ⟨value, ?_⟩
    rw [hproceeds.exchangesIn_eq, exchangesIn_ask_of_ok hanswer]
    simp
  · rintro ⟨value, hmem⟩
    obtain ⟨first, rest, hsplit⟩ := List.append_of_mem hmem
    obtain ⟨left, final, hproceeds⟩ :=
      exists_proceeds (dispatch (.perform action) options).run session
    rw [hsplit] at hproceeds
    obtain ⟨next, before, later, hbefore, hanswer, -⟩ := hproceeds.split
    have hgranted := (answer_call_eq_ok_iff (options_mutation action)).mp ⟨later, hanswer⟩
    exact ⟨first, next, before, value, hbefore, hgranted⟩

/-! ## Actions that are carried out -/

/-- An action ends as carried out exactly when its one change has been granted and, for a giveback,
the reboot of this node could be started. A giveback whose change has been granted attempts the
reboot once, and nothing else attempts any. -/
theorem executed_iff_granted (action : Action) (options : CallOptions) (session : Session σ) :
    ((∃ executed, (runIn (dispatch (.perform action) options).run session).1 =
          .ok (.ok (.executed executed))) ↔
        ChangeGranted action options session ∧
          (action = .giveback → session.desk.reboot = .ok ())) ∧
      (action = .giveback ∧ ChangeGranted action options session →
        (runIn (dispatch (.perform action) options).run session).2.desk.reboots =
          session.desk.reboots + 1) ∧
      (¬ (action = .giveback ∧ ChangeGranted action options session) →
        (runIn (dispatch (.perform action) options).run session).2.desk.reboots =
          session.desk.reboots) := by
  rw [reboots_eq, changeGranted_iff]
  have hreboot {outcome : Except IoError Unit} : ⟨.reboot, outcome⟩ ∈
      exchangesIn (dispatch (.perform action) options).run session →
        outcome = session.desk.reboot := eq_reboot_of_mem
  rcases completion_or_idle (.perform action) options session with
    ⟨result, hresult, hcompletion⟩ | ⟨halt, hhalt, hidle⟩
  · rw [hresult]
    refine ⟨?_, ?_, ?_⟩
    · rw [← executed_iff_of_completion hcompletion fun _ => hreboot]
      simp only [Except.ok.injEq]
    · intro hchanged
      rw [(countP_isReboot_of_completion hcompletion).1 hchanged]
    · intro hspared
      rw [(countP_isReboot_of_completion hcompletion).2 hspared, Nat.add_zero]
  · have hnone : ¬ ∃ value, ⟨.call action.mutation, .ok value⟩ ∈
        exchangesIn (dispatch (.perform action) options).run session :=
      fun ⟨value, hmem⟩ => not_mem_of_idle hidle hmem
    rw [hhalt, countP_isReboot_of_idle hidle]
    refine ⟨⟨?_, fun h => absurd h.1 hnone⟩, fun h => absurd h.2 hnone, fun _ => rfl⟩
    rintro ⟨executed, ⟨⟩⟩

/-! ## Answers without a result -/

/-- A network whose server answers one request after the other with the given texts. -/
def answering (texts : List String) : Rpc.Network Nat where
  dial _ _ := .connected fun _ =>
    { greeting := .upgraded
      before := []
      reaction _ n := ((texts[n]?.map Rpc.Incoming.text).toList, n + 1)
      state := 0 }

/-- A launch with the given arguments and nothing else. -/
def launching (arguments : List String) : Launch := ⟨arguments, ⟨[]⟩, none, false⟩

/-- What an active node answers up to the role, with the switch in the given position. -/
def activeAnswers (disabled : String) : List String :=
  ["\x7b\"id\":1,\"result\":true\x7d",
    "\x7b\"id\":2,\"result\":\x7b\"disabled\":" ++ disabled ++ "\x7d\x7d",
    "\x7b\"id\":3,\"result\":\"MASTER\"\x7d"]

/-- An answer that has the id of the change and nothing else is taken for success: the switch counts
as set, and this node is rebooted although the daemon has not said that it is demoted. -/
theorem executed_of_bareAnswers :
    (Json.parseTree "\x7b\"id\":4\x7d" = .ok (.object [("id", .ofUInt64 4)]) ∧
      (run (launching ["enable"]) (typing "")
        (answering (activeAnswers "true" ++ ["\x7b\"id\":4\x7d"]))).exit = .code 0 ∧
      outText (run (launching ["enable"]) (typing "")
        (answering (activeAnswers "true" ++ ["\x7b\"id\":4\x7d"]))).transcript =
          "Failover enabled.\n") ∧
    (Json.parseTree "\x7b\"id\":5\x7d" = .ok (.object [("id", .ofUInt64 5)]) ∧
      (run (launching ["-y", "giveback"]) (typing "")
        (answering (activeAnswers "false" ++
          ["\x7b\"id\":4,\"result\":[]\x7d", "\x7b\"id\":5\x7d"]))).reboots = 1) := by
  refine ⟨⟨rfl, ?_, ?_⟩, rfl, ?_⟩
  · decide +kernel
  · decide +kernel
  · decide +kernel

end FailoverControl.App
