import FailoverControl.Proofs.Control.Gate
import FailoverControl.Proofs.Control.ReportLines
import Mathlib.Data.List.Forall2

/-!
# What a report shows

A report asks for three things, each once and in one order, and shows all of them. Only the answer
on the reasons can fail it, whatever is found out about the serial numbers. The codes that the
daemon gives are shown in its order, one line each, with their numbers when there are several.

The main statement: in whatever world it is gathered, a report reads as its rules say
(`gatherReport_rendered`).
-/

set_option autoImplicit false

namespace FailoverControl.Control

open FailoverControl.Cluster
open FailoverControl.Daemon
open FailoverControl.Host (IoError)
open FailoverControl.Json (Value)

/-! ## The rules -/

/-- What is shown as the serial number of this node. -/
inductive ShowsLocal : Except IoError String → String → Prop
  | known (serial : String) : ShowsLocal (.ok serial) serial
  | unknown (e : IoError) : ShowsLocal (.error e) ("Unknown (" ++ e.message ++ ")")

/-- The facts about a node give its serial number. -/
def GivesSerial (facts : Value) (serial : String) : Prop :=
  ∃ members, facts = .object members ∧ members.lookup "system_serial" = some (.string serial)

/-- What is shown as the serial number of the other node. -/
inductive ShowsPeer (options : CallOptions) : CallOutcome → String → Prop
  | given {facts : Value} {serial : String} (h : GivesSerial facts serial) :
      ShowsPeer options (.ok facts) serial
  | notGiven {facts : Value} (h : ∀ serial, ¬ GivesSerial facts serial) :
      ShowsPeer options (.ok facts) "remote node did not report a serial number"
  | failed (e : CallError) : ShowsPeer options (.error e) (describePeerFailure e options)

/-- The wording of a code. -/
inductive WordedAs (code : String) : String → Prop
  | known {wording : String} (h : (code, wording) ∈ reasonTexts) : WordedAs code wording
  | unknown (h : ∀ wording, (code, wording) ∉ reasonTexts) : WordedAs code "UNKNOWN"

/-- The part of a report on the reasons with the given wordings. -/
inductive StatusSection : List String → String → Prop
  | healthy : StatusSection [] "Failover status: Failover is healthy.\n"
  | sole (wording : String) : StatusSection [wording] ("Failover status: " ++ wording ++ "\n")
  | several {wordings : List String} (h : 2 ≤ wordings.length) :
      StatusSection wordings ("Failover status: \n" ++
        String.join (wordings.mapIdx fun i wording =>
          "    " ++ toString (i + 1) ++ ": " ++ wording ++ "\n"))

/-! ## Wordings of codes -/

/-- Where every key stands once, an entry is found by its key. -/
theorem lookup_eq_some_of_mem {entries : List (String × String)} {key value : String}
    (honce : (entries.map Prod.fst).Nodup) (h : (key, value) ∈ entries) :
    entries.lookup key = some value := by
  induction entries with
  | nil => cases h
  | cons entry rest ih =>
    obtain ⟨k, v⟩ := entry
    rw [List.map_cons, List.nodup_cons] at honce
    rcases List.mem_cons.mp h with heq | hmem
    · obtain ⟨rfl, rfl⟩ := Prod.mk.inj heq
      exact List.lookup_cons_self
    · have hne : key ≠ k := by
        rintro rfl
        exact honce.1 (List.mem_map.mpr ⟨_, hmem, rfl⟩)
      rw [List.lookup_cons, beq_eq_false_iff_ne.mpr hne]
      exact ih honce.2 hmem

/-- No code of a reason is explained twice. -/
theorem nodup_reasonTexts : (reasonTexts.map Prod.fst).Nodup := by decide

/-- Every code is worded in one way. -/
theorem describe_eq_iff {code wording : String} :
    Reason.describe ⟨code⟩ = wording ↔ WordedAs code wording := by
  unfold Reason.describe
  constructor
  · rintro rfl
    cases hlookup : reasonTexts.lookup code with
    | none =>
      apply WordedAs.unknown
      intro wording hmem
      rw [lookup_eq_some_of_mem nodup_reasonTexts hmem] at hlookup
      cases hlookup
    | some wording =>
      obtain ⟨before, after, hsplit, -⟩ := List.lookup_eq_some_iff.mp hlookup
      apply WordedAs.known
      rw [hsplit]
      exact List.mem_append_right before List.mem_cons_self
  · intro h
    cases h with
    | known hmem => rw [lookup_eq_some_of_mem nodup_reasonTexts hmem, Option.getD_some]
    | unknown hnone =>
      cases hlookup : reasonTexts.lookup code with
      | none => rfl
      | some wording =>
        obtain ⟨before, after, hsplit, -⟩ := List.lookup_eq_some_iff.mp hlookup
        have hmem : (code, wording) ∈ reasonTexts := by
          rw [hsplit]
          exact List.mem_append_right before List.mem_cons_self
        exact absurd hmem (hnone wording)

/-- No code has a wording of its own that stands for codes without one. -/
theorem describe_eq_unknown_iff {code : String} :
    Reason.describe ⟨code⟩ = "UNKNOWN" ↔ ∀ wording, (code, wording) ∉ reasonTexts := by
  rw [describe_eq_iff]
  constructor
  · intro h
    cases h with
    | known hmem =>
      have hown : ∀ entry ∈ reasonTexts, entry.2 ≠ "UNKNOWN" := by decide
      exact absurd rfl (hown _ hmem)
    | unknown hnone => exact hnone
  · exact .unknown

/-! ## Parts of a report -/

/-- Several reasons are numbered on from the given number. -/
theorem numberedReasons_ended (index : Nat) (codes : List Reason) :
    (numberedReasons index codes).map (· ++ "\n") =
      (codes.map Reason.describe).mapIdx fun i wording =>
        "    " ++ toString (index + i) ++ ": " ++ wording ++ "\n" := by
  induction codes generalizing index with
  | nil => rfl
  | cons reason rest ih =>
    rw [numberedReasons, List.map_cons, ih, List.map_cons, List.mapIdx_cons,
      Decimal.text_eq_toString]
    simp only [Nat.add_zero, Nat.add_assoc, Nat.add_comm 1]

/-- The lines on the reasons are the section that shows them. -/
theorem statusSection_reasonLines (codes : List Reason) :
    StatusSection (codes.map Reason.describe)
      (String.join ((reasonLines codes).map (· ++ "\n"))) := by
  match codes with
  | [] => exact .healthy
  | [reason] =>
    simp only [reasonLines, List.map_cons, List.map_nil, String.join_cons, String.join_nil,
      String.append_empty]
    exact .sole _
  | first :: second :: rest =>
    have hmany : 2 ≤ ((first :: second :: rest).map Reason.describe).length := by simp
    have hlines : (reasonLines (first :: second :: rest)).map (· ++ "\n") =
        "Failover status: \n" :: (numberedReasons 1 (first :: second :: rest)).map (· ++ "\n") :=
      rfl
    rw [hlines, String.join_cons, numberedReasons_ended]
    simp only [Nat.add_comm 1]
    exact .several hmany

/-- The serial number of this node is shown, or why it cannot be read. -/
theorem showsLocal_serialText (report : Report) : ShowsLocal report.serial report.serialText := by
  unfold Report.serialText
  cases report.serial with
  | ok serial => exact .known serial
  | error e => exact .unknown e

/-- Only a string is taken for a text. -/
theorem string?_eq_some_iff {value : Value} {s : String} :
    value.string? = some s ↔ value = .string s := by
  cases value <;> simp [Value.string?]

/-- Facts give the serial number that stands under its name as a string. -/
theorem givesSerial_iff {facts : Value} {serial : String} :
    GivesSerial facts serial ↔
      (facts.member? "system_serial").bind Value.string? = some serial := by
  rw [Option.bind_eq_some_iff]
  simp only [string?_eq_some_iff, exists_eq_right]
  constructor
  · rintro ⟨members, rfl, h⟩
    exact h
  · intro h
    cases facts with
    | object members => exact ⟨members, rfl, h⟩
    | _ => cases h

/-- The serial number of the other node is shown, or what is known in its place. -/
theorem showsPeer_peerSerialText (role : Role) (options : CallOptions)
    (serial : Except IoError String) (facts : CallOutcome) (codes : List Reason) :
    ShowsPeer options facts
      (Report.mk role serial (facts.bind serialOf) options codes).peerSerialText := by
  cases facts with
  | error e => exact .failed e
  | ok facts =>
    simp only [Report.peerSerialText, Except.bind, serialOf]
    cases hserial : (facts.member? "system_serial").bind Value.string? with
    | some serial => exact .given (givesSerial_iff.mpr hserial)
    | none =>
      apply ShowsPeer.notGiven
      intro serial hgives
      rw [givesSerial_iff.mp hgives] at hserial
      cases hserial

/-- The text of a report, from its parts. -/
theorem Report.text_eq_parts (report : Report) :
    report.text =
      "Node status: " ++ report.role.describe ++ "\n" ++
        "This node serial: " ++ report.serialText ++ "\n" ++
        "Other node serial: " ++ report.peerSerialText ++ "\n" ++
        String.join ((reasonLines report.reasons).map (· ++ "\n")) ++ "\n" := by
  have hsection : String.join ((reasonLines report.reasons ++ [""]).map (· ++ "\n")) =
      String.join ((reasonLines report.reasons).map (· ++ "\n")) ++ "\n" := by
    simp
  rw [text_eq]
  delta opening closing
  rw [hsection]
  simp only [String.append_assoc]

/-! ## Reports -/

/-- How a report ends, by what it has been answered. -/
structure Rendered (role : Role) (options : CallOptions) (serial : Except IoError String)
    (facts reasons : CallOutcome) (result : Except Failure Report) : Prop where
  /-- Nothing but the answer on the reasons can fail a report. -/
  fails_iff : (∃ failure, result = .error failure) ↔
    ∀ codes : List String, reasons ≠ .ok (.array (codes.map .string))
  reads : ∀ codes : List String, reasons = .ok (.array (codes.map .string)) →
    ∃ report localSerial peerSerial wordings status,
      result = .ok report ∧ ShowsLocal serial localSerial ∧ ShowsPeer options facts peerSerial ∧
        List.Forall₂ WordedAs codes wordings ∧ StatusSection wordings status ∧
        report.text =
          "Node status: " ++ role.describe ++ "\n" ++
            "This node serial: " ++ localSerial ++ "\n" ++
            "Other node serial: " ++ peerSerial ++ "\n" ++ status ++ "\n"
  /-- Each code has one wording, and that is the one of unknown codes for these only. -/
  words : ∀ code, ∃ wording, (∀ other, WordedAs code other ↔ other = wording) ∧
    (wording = "UNKNOWN" ↔ ∀ own, (code, own) ∉ reasonTexts)

/-- What is made of the answers renders all of them. -/
theorem rendered_of_answers (role : Role) (options : CallOptions) (serial : Except IoError String)
    (facts reasons : CallOutcome) :
    Rendered role options serial facts reasons
      ((readReasons reasons).map fun codes =>
        ⟨role, serial, facts.bind serialOf, options, codes⟩) where
  fails_iff := by
    constructor
    · rintro ⟨failure, hfailure⟩ codes hcodes
      rw [readReasons_eq_ok_iff.mpr ⟨codes, hcodes, rfl⟩] at hfailure
      cases hfailure
    · intro hnone
      cases hread : readReasons reasons with
      | error failure => exact ⟨failure, rfl⟩
      | ok codes =>
        obtain ⟨texts, htexts, -⟩ := readReasons_eq_ok_iff.mp hread
        exact absurd htexts (hnone texts)
  reads codes hcodes := by
    have hread : readReasons reasons = .ok (codes.map Reason.mk) :=
      readReasons_eq_ok_iff.mpr ⟨codes, hcodes, rfl⟩
    have hworded : List.Forall₂ WordedAs codes ((codes.map Reason.mk).map Reason.describe) := by
      rw [List.map_map, List.forall₂_map_right_iff]
      exact List.forall₂_same.mpr fun code _ => describe_eq_iff.mp rfl
    rw [hread]
    let report : Report := ⟨role, serial, facts.bind serialOf, options, codes.map Reason.mk⟩
    exact ⟨report, _, _, _, _, rfl, showsLocal_serialText report,
      showsPeer_peerSerialText _ _ _ _ _, hworded, statusSection_reasonLines _,
      Report.text_eq_parts report⟩
  words code :=
    ⟨_, fun other => describe_eq_iff.symm.trans eq_comm, describe_eq_unknown_iff⟩

/-- Whatever world a report is gathered in, it asks for the serial numbers of both nodes and for the
reasons, each once and in this order, and from what it is answered it is made as the rules say. -/
theorem gatherReport_rendered {σ : Type} (world : World σ) (role : Role) (options : CallOptions)
    (s : σ) :
    ∃ serial facts reasons,
      ((gatherReport role options).run.run world s).exchanges =
          reportExchanges options serial facts reasons ∧
        Rendered role options serial facts reasons
          ((gatherReport role options).run.run world s).result := by
  obtain ⟨serial, facts, reasons, hexchanges, hresult⟩ :=
    run_gatherReport world role options s
  refine ⟨serial, facts, reasons, hexchanges, ?_⟩
  rw [hresult]
  exact rendered_of_answers role options serial facts reasons

/-- Neither serial number is had and one of the two reasons is not known. -/
theorem gatherReport_rendered_withoutSerials :
    let world := reportWorld (.error (.custom "no access")) (.ok (.array []))
      (.ok (.array [.string "NO_VIP", .string "NO_POWER"]))
    ∃ report, ((gatherReport .standby .standard).run.run world ()).result = .ok report ∧
      report.text =
        "Node status: Standby\nThis node serial: Unknown (no access)\n" ++
          "Other node serial: remote node did not report a serial number\n" ++
          "Failover status: \n    1: No interfaces have been configured with a Virtual IP.\n" ++
          "    2: UNKNOWN\n\n" := by
  intro world
  obtain ⟨serial, facts, reasons, hrun, hrendered⟩ :=
    gatherReport_rendered world .standby .standard ()
  have hexchanges : reportExchanges .standard serial facts reasons =
      reportExchanges .standard (.error (.custom "no access")) (.ok (.array []))
        (.ok (.array [.string "NO_VIP", .string "NO_POWER"])) := hrun.symm
  obtain ⟨rfl, rfl, rfl⟩ : serial = .error (.custom "no access") ∧ facts = .ok (.array []) ∧
      reasons = .ok (.array [.string "NO_VIP", .string "NO_POWER"]) := by
    simpa [reportExchanges, asked] using hexchanges
  obtain ⟨report, localSerial, peerSerial, wordings, status, hresult, hlocal, hpeer, hwords,
    hstatus, htext⟩ := hrendered.reads ["NO_VIP", "NO_POWER"] rfl
  refine ⟨report, hresult, ?_⟩
  obtain ⟨first, second, rfl⟩ : ∃ first second, wordings = [first, second] := by
    obtain ⟨first, rest, -, hrest, rfl⟩ := List.forall₂_cons_left_iff.mp hwords
    obtain ⟨second, rest, -, hnone, rfl⟩ := List.forall₂_cons_left_iff.mp hrest
    rw [List.forall₂_nil_left_iff.mp hnone]
    exact ⟨first, second, rfl⟩
  simp only [List.forall₂_cons, ← describe_eq_iff] at hwords
  obtain ⟨rfl, rfl, -⟩ := hwords
  rw [htext]
  cases hlocal
  cases hstatus
  cases hpeer with
  | given hgiven =>
    obtain ⟨members, hmembers, -⟩ := hgiven
    cases hmembers
  | notGiven => decide +kernel

end FailoverControl.Control
