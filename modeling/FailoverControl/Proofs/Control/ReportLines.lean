import FailoverControl.Proofs.Control.Stages
import FailoverControl.Proofs.Text.OneLine

/-!
# The lines of a report

A report shows the answer of the other node as it is, in one place: behind the words that introduce
its serial number. All the rest of the report is settled by this node and its daemon. An answer with
line feeds makes more lines in that place, and nothing marks them as the other node's.

The main statements: `report_lines`, and a report in which the other node has written a line of its
own (`report_forged`).
-/

set_option autoImplicit false

namespace FailoverControl.Control

open FailoverControl.Cluster
open FailoverControl.Daemon
open FailoverControl.Host (IoError)
open FailoverControl.Json (Value)
open FailoverControl.Text

/-! ## The lines on the reasons -/

/-- A role is described on one line. -/
theorem isLine_describeRole (role : Role) : IsLine role.describe := by
  cases role <;> exact isLine_ofList (by decide)

/-- Every wording of a reason is a line, that of unknown codes included. -/
theorem isLine_describeReason (reason : Reason) : IsLine reason.describe := by
  have hknown : ∀ entry ∈ reasonTexts, IsLine entry.2 := by
    simp only [reasonTexts, List.forall_mem_cons]
    repeat' apply And.intro
    all_goals first
      | exact isLine_ofList (by decide)
      | exact fun _ h => absurd h List.not_mem_nil
  unfold Reason.describe
  cases hlookup : reasonTexts.lookup reason.code with
  | none => exact isLine_ofList (by decide)
  | some wording =>
    obtain ⟨before, after, hentries, -⟩ := List.lookup_eq_some_iff.mp hlookup
    exact hknown (reason.code, wording) (hentries ▸ List.mem_append_right _ List.mem_cons_self)

/-- Each reason has a number. -/
theorem length_numberedReasons (index : Nat) (codes : List Reason) :
    (numberedReasons index codes).length = codes.length := by
  induction codes generalizing index with
  | nil => rfl
  | cons reason rest ih => rw [numberedReasons, List.length_cons, List.length_cons, ih]

/-- A numbered reason is one line, whatever its code is. -/
theorem isLine_numberedReasons (index : Nat) (codes : List Reason) :
    ∀ line ∈ numberedReasons index codes, IsLine line := by
  induction codes generalizing index with
  | nil => exact fun _ h => absurd h List.not_mem_nil
  | cons reason rest ih =>
    refine List.forall_mem_cons.mpr ⟨?_, ih (index + 1)⟩
    rw [isLine_append_iff, isLine_append_iff, isLine_append_iff]
    exact ⟨⟨⟨isLine_ofList (by decide), isLine_text index⟩, isLine_ofList (by decide)⟩,
      isLine_describeReason reason⟩

/-- One line on at most one reason, else one line more than there are reasons. -/
theorem length_reasonLines (codes : List Reason) :
    (reasonLines codes).length = if codes.length ≤ 1 then 1 else 1 + codes.length := by
  match codes with
  | [] => rfl
  | [reason] => rfl
  | first :: second :: rest =>
    have hmany : ¬ (first :: second :: rest).length ≤ 1 := by simp
    have hlines : reasonLines (first :: second :: rest) =
        "Failover status: " :: numberedReasons 1 (first :: second :: rest) := rfl
    rw [if_neg hmany, hlines, List.length_cons, length_numberedReasons, Nat.add_comm]

/-- The lines on the reasons are lines, whatever the codes are. -/
theorem isLine_reasonLines (codes : List Reason) : ∀ line ∈ reasonLines codes, IsLine line := by
  have hstatus : IsLine "Failover status: " := isLine_ofList (by decide)
  match codes with
  | [] => exact List.forall_mem_singleton.mpr (isLine_ofList (by decide))
  | [reason] =>
    exact List.forall_mem_singleton.mpr
      (isLine_append_iff.mpr ⟨hstatus, isLine_describeReason reason⟩)
  | first :: second :: rest =>
    exact List.forall_mem_cons.mpr ⟨hstatus, isLine_numberedReasons 1 (first :: second :: rest)⟩

/-- The first line on the reasons tells the status of failover. -/
theorem reasonLines_begin (codes : List Reason) :
    ∃ finding more, reasonLines codes = ("Failover status: " ++ finding) :: more := by
  match codes with
  | [] => exact ⟨"Failover is healthy.", [], rfl⟩
  | [reason] => exact ⟨reason.describe, [], rfl⟩
  | first :: second :: rest => exact ⟨"", numberedReasons 1 (first :: second :: rest), rfl⟩

/-! ## The text of a report -/

namespace Report

/-- The part of a report in front of what it shows for the other node. -/
def opening (role : Role) (serialText : String) : String :=
  "Node status: " ++ role.describe ++ "\n" ++ ("This node serial: " ++ serialText) ++ "\n" ++
    "Other node serial: "

/-- The part of a report behind what it shows for the other node. -/
def closing (codes : List Reason) : String :=
  "\n" ++ String.join ((reasonLines codes ++ [""]).map (· ++ "\n"))

/-- The text of lines, taken apart within the third one. -/
theorem join_spliced (first second front middle : String) (rest : List String) :
    String.join ((first :: second :: (front ++ middle) :: rest).map (· ++ "\n")) =
      first ++ "\n" ++ second ++ "\n" ++ front ++ middle ++
        ("\n" ++ String.join (rest.map (· ++ "\n"))) := by
  simp only [List.map_cons, String.join_cons, String.append_assoc]

/-- What is shown for the other node stands as it is between two parts that do not depend on it. -/
theorem text_eq (report : Report) :
    report.text =
      opening report.role report.serialText ++ report.peerSerialText ++ closing report.reasons :=
  join_spliced _ _ _ _ _

/-- The lines of a report are those of its parts, in order, and two empty ones. -/
theorem linesOf_text (report : Report) :
    linesOf report.text =
      ("Node status: " ++ report.role.describe) ::
        linesOf ("This node serial: " ++ report.serialText) ++
        linesOf ("Other node serial: " ++ report.peerSerialText) ++
        reasonLines report.reasons ++ ["", ""] := by
  have hrole : IsLine ("Node status: " ++ report.role.describe) :=
    isLine_append_iff.mpr ⟨isLine_ofList (by decide), isLine_describeRole report.role⟩
  rw [text, linesOf_join, lines, List.flatMap_append, List.flatMap_append,
    flatMap_linesOf (isLine_reasonLines report.reasons)]
  simp [isLine_iff.mp hrole, isLine_iff.mp isLine_empty]

/-- How many line feeds a text has. -/
def feeds (s : String) : Nat := s.toList.count '\n'

/-- A label of one line adds no line to a text. -/
theorem length_linesOf_prefixed (front s : String) (hfront : IsLine front) :
    (linesOf (front ++ s)).length = feeds s + 1 := by
  have hnone : front.toList.count '\n' = 0 := List.count_eq_zero.mpr hfront
  rw [length_linesOf, String.toList_append, List.count_append, hnone, Nat.zero_add, feeds]

/-- A report has a fixed number of lines for its reasons, and one more for each line feed in a
serial number. -/
theorem length_linesOf_text (report : Report) :
    (linesOf report.text).length =
      (if report.reasons.length ≤ 1 then 4 else 4 + report.reasons.length) +
        feeds report.serialText + feeds report.peerSerialText + 2 := by
  have hserial := length_linesOf_prefixed "This node serial: " report.serialText
    (isLine_ofList (by decide))
  have hpeer := length_linesOf_prefixed "Other node serial: " report.peerSerialText
    (isLine_ofList (by decide))
  have hreasons := length_reasonLines report.reasons
  rw [linesOf_text]
  simp only [List.length_append, List.length_cons, List.length_nil, hserial, hpeer, hreasons]
  split <;> omega

/-- Without line feeds in the two serial numbers a report has the lines that it is made of. -/
theorem linesOf_text_of_isLine {report : Report} (hserial : IsLine report.serialText)
    (hpeer : IsLine report.peerSerialText) :
    linesOf report.text =
      ["Node status: " ++ report.role.describe, "This node serial: " ++ report.serialText,
        "Other node serial: " ++ report.peerSerialText] ++ reasonLines report.reasons ++
        ["", ""] := by
  have hlocal : IsLine ("This node serial: " ++ report.serialText) :=
    isLine_append_iff.mpr ⟨isLine_ofList (by decide), hserial⟩
  have hother : IsLine ("Other node serial: " ++ report.peerSerialText) :=
    isLine_append_iff.mpr ⟨isLine_ofList (by decide), hpeer⟩
  rw [linesOf_text, isLine_iff.mp hlocal, isLine_iff.mp hother]
  rfl

end Report

/-! ## Runs of the report -/

/-- What is exchanged while a report is gathered. -/
def reportExchanges (options : CallOptions) (serial : Except IoError String)
    (facts reasons : CallOutcome) : List Exchange :=
  [⟨.serial, serial⟩, ⟨.call (peerInquiry options), facts⟩, asked Method.disabledReasons reasons]

/-- Every run that gathers a report has three exchanges, and its report is made of their answers. -/
theorem run_gatherReport {σ : Type} (world : World σ) (role : Role) (options : CallOptions)
    (s : σ) :
    ∃ serial facts reasons,
      ((gatherReport role options).run.run world s).exchanges =
          reportExchanges options serial facts reasons ∧
        ((gatherReport role options).run.run world s).result =
          (readReasons reasons).map fun codes =>
            ⟨role, serial, facts.bind serialOf, options, codes⟩ := by
  have hcourse := course_gatherReport (Procedure.course_run world (gatherReport role options).run s)
  generalize (gatherReport role options).run.run world s = run at hcourse ⊢
  obtain ⟨result, exchanges, s'⟩ := run
  cases hcourse with
  | gathered serial facts reasons => exact ⟨serial, facts, reasons, rfl, rfl⟩

/-- How a report is laid out: what is shown for the other node stands as it is between two parts,
and the lines are those on this node, those of what is shown for the other one, the lines on the
failover status and an empty one. What is shown for either serial number adds as many lines as it
has line feeds. -/
structure Report.LaidOut (report : Report) (opening closing : String) (status : List String) :
    Prop where
  text_eq : report.text = opening ++ report.peerSerialText ++ closing
  lines_eq : linesOf report.text =
    ("Node status: " ++ report.role.describe) ::
      linesOf ("This node serial: " ++ report.serialText) ++
      linesOf ("Other node serial: " ++ report.peerSerialText) ++ status ++ ["", ""]
  length_eq : (linesOf report.text).length =
    (if report.reasons.length ≤ 1 then 4 else 4 + report.reasons.length) +
      feeds report.serialText + feeds report.peerSerialText + 2
  lines_of_isLine : IsLine report.serialText → IsLine report.peerSerialText →
    linesOf report.text =
      ["Node status: " ++ report.role.describe, "This node serial: " ++ report.serialText,
        "Other node serial: " ++ report.peerSerialText] ++ status ++ ["", ""]

/-- The other node settles one place of a report. Whatever it answers, in whatever world, around
what is shown for it stand the same two parts, and the lines behind it are the same lines on the
reasons, of which the first one begins with the words on the failover status. -/
theorem report_lines (role : Role) (options : CallOptions) (serial : Except IoError String)
    {reasons : CallOutcome} {codes : List Reason} (hreasons : readReasons reasons = .ok codes) :
    ∃ (opening closing : String) (status : List String),
      (∃ finding more, status = ("Failover status: " ++ finding) :: more) ∧
        status.length = (if codes.length ≤ 1 then 1 else 1 + codes.length) ∧
        (∀ line ∈ status, IsLine line) ∧
        ∀ {σ : Type} (world : World σ) (s : σ) (facts : CallOutcome),
          ((gatherReport role options).run.run world s).exchanges =
              reportExchanges options serial facts reasons →
            ∃ report : Report,
              ((gatherReport role options).run.run world s).result = .ok report ∧
                report = ⟨role, serial, facts.bind serialOf, options, codes⟩ ∧
                report.LaidOut opening closing status := by
  -- What is shown for this node does not depend on the other fields of the report.
  let shown := (⟨role, serial, .ok "", options, codes⟩ : Report).serialText
  refine ⟨Report.opening role shown, Report.closing codes, reasonLines codes,
    reasonLines_begin codes, length_reasonLines codes, isLine_reasonLines codes, ?_⟩
  intro σ world s facts hexchanges
  obtain ⟨serial', facts', reasons', hrun, hresult⟩ := run_gatherReport world role options s
  obtain ⟨rfl, rfl, rfl⟩ : serial' = serial ∧ facts' = facts ∧ reasons' = reasons := by
    simpa [reportExchanges, asked] using hrun.symm.trans hexchanges
  rw [hreasons] at hresult
  refine ⟨_, hresult, rfl, ?_⟩
  exact
    { text_eq := Report.text_eq _
      lines_eq := Report.linesOf_text _
      length_eq := Report.length_linesOf_text _
      lines_of_isLine := Report.linesOf_text_of_isLine }

/-- A world in which a report finds the given answers. -/
def reportWorld (serial : Except IoError String) (facts reasons : CallOutcome) : World Unit where
  answer
    | .call call, s => (if call.method = Method.callRemote then facts else reasons, s)
    | .serial, s => (serial, s)
    | .warn _, s => ((), s)
    | .confirm _, s => (true, s)
    | .reboot, s => (.ok (), s)
    | .log _, s => ((), s)

/-- The facts about another node with the given serial number. -/
def factsOf (serial : String) : CallOutcome := .ok (.object [("system_serial", .string serial)])

/-- That there are no volumes. -/
def noVolume : CallOutcome := .ok (.array [.string "NO_VOLUME"])

/-- One reason and a serial number of one line. -/
theorem report_lines_oneReason :
    readReasons noVolume = .ok [⟨"NO_VOLUME"⟩] ∧
      ((gatherReport .active .standard).run.run
          (reportWorld (.ok "A-1") (factsOf "B-1") noVolume) ()).exchanges =
        reportExchanges .standard (.ok "A-1") (factsOf "B-1") noVolume ∧
      ∃ report opening closing status,
        ((gatherReport .active .standard).run.run
          (reportWorld (.ok "A-1") (factsOf "B-1") noVolume) ()).result = .ok report ∧
        report.LaidOut opening closing status ∧ status.length = 1 := by
  have hreasons : readReasons noVolume = .ok [⟨"NO_VOLUME"⟩] := rfl
  have hexchanges : ((gatherReport .active .standard).run.run
      (reportWorld (.ok "A-1") (factsOf "B-1") noVolume) ()).exchanges =
        reportExchanges .standard (.ok "A-1") (factsOf "B-1") noVolume := rfl
  obtain ⟨opening, closing, status, -, hlength, -, hruns⟩ :=
    report_lines .active .standard (.ok "A-1") hreasons
  obtain ⟨report, hresult, -, hlaid⟩ := hruns _ () (factsOf "B-1") hexchanges
  exact ⟨hreasons, hexchanges, report, opening, closing, status, hresult, hlaid, hlength⟩

/-- The lines of the report on an active node without volumes, by the serial number of the other
node. -/
def reportedLines (peerSerial : String) : Option (List String) :=
  let run := (gatherReport .active .standard).run.run
    (reportWorld (.ok "A-1") (factsOf peerSerial) noVolume) ()
  run.result.toOption.map fun report => linesOf report.text

/-- The lines of the serial number of the other node stand as they are among those of this node. -/
theorem reportedLines_eq (peerSerial : String) :
    reportedLines peerSerial =
      some (["Node status: Active", "This node serial: A-1"] ++
        linesOf ("Other node serial: " ++ peerSerial) ++
        ["Failover status: No zpools have been configured.", "", ""]) := by
  have hreport : reportedLines peerSerial =
      some (linesOf (Report.text ⟨.active, .ok "A-1", .ok peerSerial, .standard,
        [⟨"NO_VOLUME"⟩]⟩)) := rfl
  have hserial : linesOf ("This node serial: " ++ "A-1") = ["This node serial: A-1"] := by
    decide +kernel
  have hrole : "Node status: " ++ Role.active.describe = "Node status: Active" := by decide +kernel
  have hreasons : reasonLines [⟨"NO_VOLUME"⟩] =
      ["Failover status: No zpools have been configured."] := by decide +kernel
  rw [hreport, Report.linesOf_text]
  simp only [Report.serialText, Report.peerSerialText, hserial, hrole, hreasons,
    List.append_assoc, List.cons_append, List.nil_append]

/-- A serial number with a line feed adds a line to the report, which takes the place of the one on
the failover status. -/
theorem report_forged :
    reportedLines "B-1" =
        some ["Node status: Active", "This node serial: A-1", "Other node serial: B-1",
          "Failover status: No zpools have been configured.", "", ""] ∧
      reportedLines "B-1\nFailover status: Failover is healthy." =
        some ["Node status: Active", "This node serial: A-1", "Other node serial: B-1",
          "Failover status: Failover is healthy.",
          "Failover status: No zpools have been configured.", "", ""] := by
  rw [reportedLines_eq, reportedLines_eq]
  constructor
  · decide +kernel
  · decide +kernel

end FailoverControl.Control
