import FailoverControl.Proofs.Control.Rendering

/-!
# What becomes of a failed call

A failed call is put into one of three classes, and the class of a failed query of the other node
stands in the report, with the bound that was given for it. Only a fault can say that a node is
unreachable or does not answer, and only by its markers, of which those of an unreachable node
count first. Everything else keeps its own wording.

The main statement: how every failure is classified, and the line that it makes in a report
(`failure_told`).
-/

set_option autoImplicit false

namespace FailoverControl.Daemon

open FailoverControl.Rpc

/-! ## Markers -/

/-- Details that mark a node that cannot be reached. -/
inductive Unreachable (data : FaultData) : Prop
  | name {name : String} (h : data.errname = some name)
      (hname : name ∈ ["ECONNREFUSED", "ECONNABORTED", "ECONNRESET", "EHOSTUNREACH", "EHOSTDOWN",
        "ENETUNREACH"])
  | number {n : Int32} (h : data.errno = some n) (hnumber : n ∈ [111, 103, 104, 113, 112, 101])

/-- Details that mark an answer that has not come in time. -/
inductive Unanswered (data : FaultData) : Prop
  | trace {trace : FaultTrace} (h : data.trace = some trace)
      (hclass : trace.className = some "CallTimeout")
  | name (h : data.errname = some "ETIMEDOUT")
  | number (h : data.errno = some 110)

/-- A failure is a fault with details of some kind. -/
def Marked (kind : FaultData → Prop) (failure : Failure) : Prop :=
  ∃ fault data, failure = .fault fault ∧ fault.data = some data ∧ kind data

/-- Details are marked as of an unreachable node when they say so in one of the known ways. -/
theorem marksUnreachable_iff {data : FaultData} :
    marksUnreachable data = true ↔ Unreachable data := by
  simp only [marksUnreachable, Bool.or_eq_true, Option.any_eq_true, List.contains_iff_mem]
  constructor
  · rintro (⟨name, hname, hmem⟩ | ⟨n, hn, hmem⟩)
    · exact .name hname hmem
    · exact .number hn hmem
  · rintro (⟨hname, hmem⟩ | ⟨hn, hmem⟩)
    · exact .inl ⟨_, hname, hmem⟩
    · exact .inr ⟨_, hn, hmem⟩

/-- Details are marked as of a timeout when they say so in one of the known ways. -/
theorem marksTimeout_iff {data : FaultData} : marksTimeout data = true ↔ Unanswered data := by
  simp only [marksTimeout, Bool.or_eq_true, Option.any_eq_true, beq_iff_eq, exists_eq_right,
    Option.bind_eq_some_iff]
  constructor
  · rintro ((⟨trace, htrace, hclass⟩ | hname) | hn)
    · exact .trace htrace hclass
    · exact .name hname
    · exact .number hn
  · rintro (⟨htrace, hclass⟩ | hname | hn)
    · exact .inl (.inl ⟨_, htrace, hclass⟩)
    · exact .inl (.inr hname)
    · exact .inr hn

/-- A fault is marked by the details that it carries. -/
theorem marked_fault_iff {kind : FaultData → Prop} {mark : FaultData → Bool}
    (h : ∀ {data}, mark data = true ↔ kind data) {fault : Fault} :
    Marked kind (.fault fault) ↔ fault.data.any mark = true := by
  rw [Option.any_eq_true]
  constructor
  · rintro ⟨_, data, hfault, hdata, hkind⟩
    obtain rfl := Failure.fault.inj hfault
    exact ⟨data, hdata, h.mpr hkind⟩
  · rintro ⟨data, hdata, hmark⟩
    exact ⟨fault, data, rfl, hdata, h.mp hmark⟩

/-- Only faults are marked. -/
theorem not_marked_of_ne_fault {kind : FaultData → Prop} {failure : Failure}
    (h : ∀ fault, failure ≠ .fault fault) : ¬ Marked kind failure := by
  rintro ⟨fault, _, hfault, -⟩
  exact h fault hfault

/-! ## Classes -/

/-- The class of a failure, by the markers of its fault. -/
inductive Classified (failure : Failure) : CallError → Prop
  | connectFailure (h : Marked Unreachable failure) : Classified failure .connectFailure
  | timeout (hreached : ¬ Marked Unreachable failure) (h : Marked Unanswered failure) :
      Classified failure .timeout
  | other (hreached : ¬ Marked Unreachable failure) (hanswered : ¬ Marked Unanswered failure) :
      Classified failure (.other failure.message)

/-- Every failure is given one of its classes. -/
theorem classified_ofFailure (failure : Failure) :
    Classified failure (.ofFailure failure) := by
  cases failure with
  | fault fault =>
    have hunreachable : Marked Unreachable (.fault fault) ↔ _ :=
      marked_fault_iff @marksUnreachable_iff
    have hunanswered : Marked Unanswered (.fault fault) ↔ _ := marked_fault_iff @marksTimeout_iff
    show Classified (.fault fault) (.ofFault fault)
    unfold CallError.ofFault
    by_cases hreach : fault.data.any marksUnreachable = true
    · rw [if_pos hreach]
      exact .connectFailure (hunreachable.mpr hreach)
    rw [if_neg hreach]
    by_cases hanswer : fault.data.any marksTimeout = true
    · rw [if_pos hanswer]
      exact .timeout (mt hunreachable.mp hreach) (hunanswered.mpr hanswer)
    · rw [if_neg hanswer]
      exact .other (mt hunreachable.mp hreach) (mt hunanswered.mp hanswer)
  | _ => exact .other (not_marked_of_ne_fault nofun) (not_marked_of_ne_fault nofun)

/-- No failure has two classes. -/
theorem Classified.unique {failure : Failure} {e e' : CallError} (h : Classified failure e)
    (h' : Classified failure e') : e = e' := by
  cases h with
  | connectFailure hunreachable => cases h' <;> first | rfl | contradiction
  | timeout hreached hunanswered => cases h' <;> first | rfl | contradiction
  | other hreached hanswered => cases h' <;> first | rfl | contradiction

/-- The class of a failure is the one that its markers name, and no other. -/
theorem ofFailure_eq_iff {failure : Failure} {e : CallError} :
    CallError.ofFailure failure = e ↔ Classified failure e := by
  constructor
  · rintro rfl
    exact classified_ofFailure failure
  · exact (classified_ofFailure failure).unique

/-- All that the class of a fault may depend on: its error number, its symbolic name and the class
of its trace. -/
def markers (fault : Fault) : Option Int32 × Option String × Option String :=
  (fault.data.bind FaultData.errno, fault.data.bind FaultData.errname,
    (fault.data.bind FaultData.trace).bind FaultTrace.className)

/-- Two failures are of one class, whatever is told of them. -/
def SameClass : CallError → CallError → Prop
  | .connectFailure, .connectFailure => True
  | .timeout, .timeout => True
  | .other _, .other _ => True
  | _, _ => False

/-- Faults with the same markers are of one class. -/
theorem sameClass_of_markers {fault fault' : Fault} (h : markers fault = markers fault') :
    SameClass (.ofFault fault) (.ofFault fault') := by
  have hunreachable (f : Fault) : f.data.any marksUnreachable =
      ((markers f).2.1.any (unreachableNames.contains ·) ||
        (markers f).1.any (unreachableNumbers.contains ·)) := by
    cases hdata : f.data <;> simp [markers, marksUnreachable, hdata]
  have hunanswered (f : Fault) : f.data.any marksTimeout =
      ((markers f).2.2.any (· == "CallTimeout") || (markers f).2.1.any (· == "ETIMEDOUT") ||
        (markers f).1.any (· == 110)) := by
    cases hdata : f.data <;> simp [markers, marksTimeout, hdata]
  unfold CallError.ofFault
  rw [hunreachable, hunreachable, hunanswered, hunanswered, h]
  split
  · trivial
  · split <;> trivial

end FailoverControl.Daemon

namespace FailoverControl.Control

open FailoverControl.Cluster
open FailoverControl.Daemon
open FailoverControl.Host (IoError)

/-! ## The line of the other node -/

/-- What a report shows in place of the serial number of a node whose query has failed. -/
inductive ShowsFailure (options : CallOptions) (failure : Rpc.Failure) : String → Prop
  | unreachable (h : Marked Unreachable failure) :
      ShowsFailure options failure ("Failed to connect to remote node after " ++
        toString options.connectTimeout.seconds ++ " seconds.")
  | unanswered (hreached : ¬ Marked Unreachable failure) (h : Marked Unanswered failure) :
      ShowsFailure options failure ("Timed out after " ++ toString options.timeout.seconds ++
        " seconds waiting on response from remote node.")
  | other (hreached : ¬ Marked Unreachable failure) (hanswered : ¬ Marked Unanswered failure) :
      ShowsFailure options failure failure.message

/-- The other node is shown as the class of the failure has it. -/
theorem showsFailure_describe (options : CallOptions) (failure : Rpc.Failure) :
    ShowsFailure options failure (describePeerFailure (.ofFailure failure) options) := by
  by_cases hreach : Marked Unreachable failure
  · rw [ofFailure_eq_iff.mpr (.connectFailure hreach)]
    unfold describePeerFailure
    simp only [Decimal.text_eq_toString]
    exact .unreachable hreach
  by_cases hanswer : Marked Unanswered failure
  · rw [ofFailure_eq_iff.mpr (.timeout hreach hanswer)]
    unfold describePeerFailure
    simp only [Decimal.text_eq_toString]
    exact .unanswered hreach hanswer
  · rw [ofFailure_eq_iff.mpr (.other hreach hanswer)]
    exact .other hreach hanswer

/-- What becomes of a failed call. -/
structure Told (failure : Rpc.Failure) : Prop where
  class_iff : ∀ e, CallError.ofFailure failure = e ↔ Classified failure e
  /-- A fault speaks for itself by the reason among its details, else by its message. -/
  fault_message : ∀ fault, failure = .fault fault →
    (∀ data reason, fault.data = some data → data.reason = some reason →
      failure.message = reason) ∧
    ((∀ data, fault.data = some data → data.reason = none) → failure.message = fault.message)
  /-- Neither its code nor its message nor its reason has a say in the class of a fault. -/
  blind : ∀ fault fault', failure = .fault fault → markers fault = markers fault' →
    SameClass (.ofFailure failure) (.ofFailure (.fault fault'))
  /-- Nothing that goes wrong on this side looks like an unreachable or unanswering node. -/
  unmarked : (∀ fault, failure ≠ .fault fault) →
    CallError.ofFailure failure = .other failure.message
  shown : ∀ {σ : Type} (world : World σ) (s : σ) (role : Role) (options : CallOptions)
    (serial : Except IoError String) (reasons : CallOutcome) (codes : List String),
    ((gatherReport role options).run.run world s).exchanges =
        reportExchanges options serial (.error (.ofFailure failure)) reasons →
      reasons = .ok (.array (codes.map .string)) →
      ∃ report localSerial line wordings status,
        ((gatherReport role options).run.run world s).result = .ok report ∧
          ShowsLocal serial localSerial ∧ ShowsFailure options failure line ∧
          List.Forall₂ WordedAs codes wordings ∧ StatusSection wordings status ∧
          report.text =
            "Node status: " ++ role.describe ++ "\n" ++
              "This node serial: " ++ localSerial ++ "\n" ++
              "Other node serial: " ++ line ++ "\n" ++ status ++ "\n"

/-- Every failure is of one class, which the markers of its fault settle, and in a report it makes
the line of that class. -/
theorem failure_told (failure : Rpc.Failure) : Told failure where
  class_iff _ := ofFailure_eq_iff
  fault_message := by
    rintro fault rfl
    show (∀ data reason, _ → _ → fault.reason = reason) ∧ (_ → fault.reason = fault.message)
    unfold Rpc.Fault.reason
    constructor
    · intro data reason hdata hreason
      rw [hdata, Option.bind_some, hreason, Option.getD_some]
    · intro hnone
      cases hdata : fault.data with
      | none => rfl
      | some data => rw [Option.bind_some, hnone data hdata, Option.getD_none]
  blind := by
    rintro fault fault' rfl hmarkers
    exact sameClass_of_markers hmarkers
  unmarked h :=
    ofFailure_eq_iff.mpr (.other (not_marked_of_ne_fault h) (not_marked_of_ne_fault h))
  shown := by
    intro σ world s role options serial reasons codes hexchanges hcodes
    obtain ⟨serial', facts', reasons', hrun, hresult⟩ := run_gatherReport world role options s
    obtain ⟨rfl, rfl, rfl⟩ : serial' = serial ∧ facts' = .error (.ofFailure failure) ∧
        reasons' = reasons := by
      simpa [reportExchanges, asked] using hrun.symm.trans hexchanges
    have hrendered := (rendered_of_answers role options serial' (.error (.ofFailure failure))
      reasons').reads codes hcodes
    rw [← hresult] at hrendered
    obtain ⟨report, localSerial, line, wordings, status, hreport, hlocal, hpeer, hwords, hstatus,
      htext⟩ := hrendered
    cases hpeer
    exact ⟨report, localSerial, _, wordings, status, hreport, hlocal,
      showsFailure_describe options failure, hwords, hstatus, htext⟩

/-- A fault whose details name a missing answer three times and an unreachable node once. -/
def contradictoryFault : Rpc.Fault :=
  ⟨110, "ETIMEDOUT", some ⟨some 113, some "ETIMEDOUT", some "CallTimeout", some ⟨"CallTimeout"⟩⟩⟩

/-- The marker of an unreachable node counts. -/
theorem failure_told_contradictory :
    let world := reportWorld (.ok "A-1") (.error (.ofFailure (.fault contradictoryFault)))
      (.ok (.array []))
    Marked Unanswered (.fault contradictoryFault) ∧
      CallError.ofFailure (.fault contradictoryFault) = .connectFailure ∧
      ∃ report, ((gatherReport .active .standard).run.run world ()).result = .ok report ∧
        report.text =
          "Node status: Active\nThis node serial: A-1\n" ++
            "Other node serial: Failed to connect to remote node after 2 seconds.\n" ++
            "Failover status: Failover is healthy.\n\n" := by
  intro world
  have hunreachable : Marked Unreachable (.fault contradictoryFault) :=
    ⟨_, _, rfl, rfl, .number rfl (by decide)⟩
  have htold := failure_told (.fault contradictoryFault)
  refine ⟨⟨_, _, rfl, rfl, .name rfl⟩, (htold.class_iff _).mpr (.connectFailure hunreachable), ?_⟩
  obtain ⟨report, localSerial, line, wordings, status, hresult, hlocal, hline, hwords, hstatus,
    htext⟩ := htold.shown world () .active .standard (.ok "A-1") (.ok (.array [])) [] rfl rfl
  refine ⟨report, hresult, ?_⟩
  rw [htext]
  obtain rfl := List.forall₂_nil_left_iff.mp hwords
  cases hlocal
  cases hstatus with
  | healthy =>
    cases hline with
    | unreachable => decide +kernel
    | unanswered hreached => exact absurd hunreachable hreached
    | other hreached => exact absurd hunreachable hreached
  | several hmany => cases hmany

end FailoverControl.Control
