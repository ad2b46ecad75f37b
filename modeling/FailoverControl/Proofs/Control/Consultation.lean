import FailoverControl.Proofs.Control.Calls

/-!
# Commands under the control of one question

A call that demotes a node, and an attempt to reboot this one, disrupt the service. A command puts
at most one question to the operator. Before the question it disrupts nothing, and after a refusal
it does not either.

The main statement: every command is under the control of one question (`consults_dispatch`). It is
a property of the procedure, not of its runs, so it also holds of runs that are stopped on the way.
-/

set_option autoImplicit false

namespace FailoverControl.Daemon

/-- Whether a call demotes this node or the other one. -/
def Call.demotes (call : Call) : Bool :=
  call.method == Method.becomePassive ||
    (call.method == Method.callRemote &&
      call.args.head?.bind Json.Value.string? == some Method.becomePassive)

end FailoverControl.Daemon

namespace FailoverControl.Control

open FailoverControl.Daemon

variable {α : Type}

/-! ## Procedures under the control of a question -/

/-- Whether a request disrupts the service. -/
def Request.disrupts : Request → Bool
  | .call c => c.demotes
  | .reboot => true
  | _ => false

/-- Whether a request is a question to the operator. -/
def Request.asks : Request → Bool
  | .confirm _ => true
  | _ => false

namespace Procedure

/-- Nothing that a procedure may come to ask for is marked. -/
inductive Avoids (marked : Request → Bool) : Procedure α → Prop
  | done (a : α) : Avoids marked (.done a)
  | ask {request : Request} {next : request.Answer → Procedure α}
      (hrequest : marked request = false) (hnext : ∀ answer, Avoids marked (next answer)) :
      Avoids marked (.ask request next)

/-- A procedure disrupts nothing before it puts a question, puts no other one, and disrupts nothing
after a refusal. -/
inductive Consults : Procedure α → Prop
  | done (a : α) : Consults (.done a)
  | ask {request : Request} {next : request.Answer → Procedure α}
      (hquestion : request.asks = false) (hdisrupts : request.disrupts = false)
      (hnext : ∀ answer, Consults (next answer)) : Consults (.ask request next)
  | confirm {prompt : String} {next : Bool → Procedure α}
      (hagreed : (next true).Avoids Request.asks)
      (hrefused : (next false).Avoids Request.disrupts) : Consults (.ask (.confirm prompt) next)

/-- A procedure has a course, since every request can be answered. -/
theorem exists_course (p : Procedure α) : ∃ exchanges a, p.Course exchanges a := by
  induction p with
  | done a => exact ⟨[], a, .done a⟩
  | ask r next ih =>
    have hanswer : Nonempty r.Answer := by
      cases r with
      | call call => exact ⟨.error .timeout⟩
      | serial => exact ⟨.ok ""⟩
      | reboot => exact ⟨.ok ()⟩
      | confirm prompt => exact ⟨false⟩
      | _ => exact ⟨()⟩
    obtain ⟨answer⟩ := hanswer
    obtain ⟨exchanges, a, h⟩ := ih answer
    exact ⟨⟨r, answer⟩ :: exchanges, a, .ask h⟩

/-- A procedure avoids what none of its courses asks for. -/
theorem avoids_of_courses {marked : Request → Bool} {p : Procedure α}
    (h : ∀ exchanges a, p.Course exchanges a → ∀ e ∈ exchanges, marked e.request = false) :
    p.Avoids marked := by
  induction p with
  | done a => exact .done a
  | ask r next ih =>
    refine .ask ?_ fun answer => ih answer fun exchanges a hcourse e he => ?_
    · obtain ⟨_, _, hcourse⟩ := exists_course (.ask r next)
      obtain ⟨answer, rest, hrest, rfl⟩ := course_ask_iff.mp hcourse
      exact h _ _ hcourse _ List.mem_cons_self
    · exact h _ a (.ask hcourse) e (List.mem_cons_of_mem _ he)

end Procedure

/-! ## Exchanges under the control of a question -/

/-- Exchanges without a question and without a disruption. -/
def Harmless (exchanges : List Exchange) : Prop :=
  ∀ e ∈ exchanges, e.request.asks = false ∧ e.request.disrupts = false

/-- Exchanges that disrupt nothing before a question, put no other one, and disrupt nothing after a
refusal. -/
def Governed : List Exchange → Prop
  | [] => True
  | ⟨.confirm _, agreed⟩ :: rest =>
    (∀ e ∈ rest, e.request.asks = false) ∧
      (agreed = false → ∀ e ∈ rest, e.request.disrupts = false)
  | e :: rest => e.request.disrupts = false ∧ Governed rest

/-- In front of the question nothing may be disrupted. -/
theorem governed_cons_iff {e : Exchange} {rest : List Exchange} (h : e.request.asks = false) :
    Governed (e :: rest) ↔ e.request.disrupts = false ∧ Governed rest := by
  obtain ⟨request, answer⟩ := e
  cases request with
  | confirm prompt => cases h
  | _ => rfl

/-- Harmless exchanges may stand in front of the question. -/
theorem Harmless.append {before after : List Exchange} (hbefore : Harmless before)
    (hafter : Governed after) : Governed (before ++ after) := by
  induction before with
  | nil => exact hafter
  | cons e rest ih =>
    obtain ⟨⟨hquestion, hdisrupts⟩, hrest⟩ := List.forall_mem_cons.mp hbefore
    exact (governed_cons_iff hquestion).mpr ⟨hdisrupts, ih hrest⟩

/-- Harmless exchanges need no question. -/
theorem Harmless.governed {exchanges : List Exchange} (h : Harmless exchanges) :
    Governed exchanges := by
  have happend : Governed (exchanges ++ []) := h.append trivial
  rwa [List.append_nil] at happend

/-- A procedure is under the control of a question when its courses are. -/
theorem Procedure.consults_of_courses {p : Procedure α}
    (h : ∀ exchanges a, p.Course exchanges a → Governed exchanges) : p.Consults := by
  induction p with
  | done a => exact .done a
  | ask r next ih =>
    cases hquestion : r.asks with
    | true =>
      cases r with
      | confirm prompt =>
        have hcourses (agreed : Bool) (exchanges : List Exchange) (a : α)
            (hcourse : (next agreed).Course exchanges a) :
            Governed (⟨.confirm prompt, agreed⟩ :: exchanges) := h _ a (.ask hcourse)
        refine .confirm (avoids_of_courses fun _ _ hcourse => ?_)
          (avoids_of_courses fun _ _ hcourse => ?_)
        · exact (hcourses true _ _ hcourse).1
        · exact (hcourses false _ _ hcourse).2 rfl
      | _ => cases hquestion
    | false =>
      have hcourses (answer : r.Answer) (exchanges : List Exchange) (a : α)
          (hcourse : (next answer).Course exchanges a) :
          r.disrupts = false ∧ Governed exchanges :=
        (governed_cons_iff hquestion).mp (h (⟨r, answer⟩ :: exchanges) a (.ask hcourse))
      refine .ask hquestion ?_ fun answer => ih answer fun exchanges a hcourse => ?_
      · obtain ⟨_, _, hcourse⟩ := exists_course (.ask r next)
        obtain ⟨answer, rest, hrest, rfl⟩ := course_ask_iff.mp hcourse
        exact (hcourses answer rest _ hrest).1
      · exact (hcourses answer exchanges a hcourse).2

/-! ## The stages of a command -/

variable {exchanges : List Exchange}

/-- Exchanges are harmless when the first one and all later ones are. -/
theorem harmless_cons_iff {e : Exchange} {rest : List Exchange} :
    Harmless (e :: rest) ↔
      (e.request.asks = false ∧ e.request.disrupts = false) ∧ Harmless rest :=
  List.forall_mem_cons

/-- Without exchanges there is no harm. -/
theorem harmless_nil : Harmless [] := fun _ h => absurd h List.not_mem_nil

/-- Taking the snapshot is harmless. -/
theorem SnapshotCourse.harmless {command : Command} {result : Except Failure Snapshot}
    (h : SnapshotCourse command exchanges result) : Harmless exchanges := by
  have hinquiries : ∀ call ∈ snapshotInquiries, call.demotes = false := by decide
  exact h.forall_mem (fun call hcall _ => ⟨rfl, hinquiries call hcall⟩) fun _ => ⟨rfl, rfl⟩

/-- A report is harmless. -/
theorem ReportCourse.harmless {role : Cluster.Role} {options : CallOptions}
    {result : Except Failure Report} (h : ReportCourse role options exchanges result) :
    Harmless exchanges := by
  have hpeer : (peerInquiry options).demotes = false := rfl
  have hreasons : (inquiry Method.disabledReasons).demotes = false := by decide
  cases h
  simp [harmless_cons_iff, harmless_nil, asked, Request.asks, Request.disrupts, hpeer, hreasons]

/-- An action that is disruptive asks first. -/
theorem ExecutionCourse.governed {action : Action} {result : Except Failure Executed}
    (h : ExecutionCourse action exchanges result) : Governed exchanges := by
  have hswitch : (Action.mutation .enable).demotes = false := by decide
  have hswitch' : (Action.mutation .disable).demotes = false := by decide
  cases h with
  | enable outcome => exact ⟨hswitch, trivial⟩
  | disable outcome => exact ⟨hswitch', trivial⟩
  | takeoverCancelled => simp [consulted, Governed, Request.disrupts]
  | takeover outcome => simp [consulted, Governed, noted, Request.disrupts, Request.asks]
  | givebackCancelled => simp [consulted, Governed, Request.disrupts]
  | givebackRefused cause => simp [consulted, Governed, noted, Request.disrupts, Request.asks]
  | giveback value outcome => simp [consulted, Governed, noted, Request.disrupts, Request.asks]

/-- An action behind the snapshot is under the control of its question. -/
theorem PerformanceCourse.governed {snapshot : Snapshot} {action : Action}
    {result : Except Failure Executed} (h : PerformanceCourse snapshot action exchanges result) :
    Governed exchanges := by
  have hreasons : (inquiry Method.disabledReasons).demotes = false := by decide
  have hasked (reasons : CallOutcome) : Harmless [asked Method.disabledReasons reasons] :=
    harmless_cons_iff.mpr ⟨⟨rfl, hreasons⟩, harmless_nil⟩
  cases h with
  | rejected hguard => exact trivial
  | undisruptive hguard hhealth hexecution => exact hexecution.governed
  | reasonsFailed hguard hhealth hreasons => exact (hasked _).governed
  | unhealthy hguard hhealth hreasons => exact (hasked _).governed
  | healthy hguard hhealth hreasons hexecution => exact (hasked _).append hexecution.governed

/-- Every course of a command is under the control of its question. -/
theorem CommandCourse.governed {options : CallOptions} {command : Command}
    {result : Except Failure Outcome} (h : CommandCourse options command exchanges result) :
    Governed exchanges := by
  cases h with
  | stopped hsnapshot => exact hsnapshot.harmless.governed
  | reported hsnapshot hreport => exact hsnapshot.harmless.append hreport.harmless.governed
  | performed hsnapshot hperform => exact hsnapshot.harmless.append hperform.governed

/-- Every command is under the control of one question. -/
theorem consults_dispatch (command : Command) (options : CallOptions) :
    (dispatch command options).run.Consults :=
  Procedure.consults_of_courses fun _ _ hcourse => (course_dispatch hcourse).governed

end FailoverControl.Control
