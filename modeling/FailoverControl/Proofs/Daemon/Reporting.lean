import FailoverControl.Proofs.Rpc.Answered
import FailoverControl.Proofs.Rpc.Decoding

/-!
# How faults are reported

The daemon answers a request with an error object: a code, a message and data of any kind. Where the
data can be read as details, the call fails with the fault, and its class is the one that the
members of the data ask for; where they cannot, the whole answer counts as malformed, and neither
the message nor a marker in the data gets through.

The main statement: what a pending call and the classified call come to when an error object answers
them, for every error object (`reported_of_errorAnswer`).
-/

set_option autoImplicit false

namespace FailoverControl.Rpc

open FailoverControl.Json

/-! ## Arrivals that decide a call -/

section Arrivals

variable {σ : Type}

/-- What a client finds on its connection once the server has reacted to a text: what it has not
read so far and what the server sends. -/
def Client.arriving (client : Client σ) (text : String) : List Incoming :=
  client.unread ++ upToLast (client.reaction text client.server).1

/-- A connection on which a request can be sent and reaches the server. -/
structure Client.Open (client : Client σ) : Prop where
  live : client.link = .live
  unread : ∀ event ∈ client.unread, event.isLast = false

/-- A call over an open connection is decided by the first message that is not passed over. -/
theorem Client.call_of_decided {client : Client σ} (hopen : client.Open) {method : String}
    {params : List Value} {skipped later : List Incoming} {text : String}
    {result : Except Failure Value}
    (harriving : client.arriving (Request.text ⟨client.nextId, method, params⟩) =
      skipped ++ .text text :: later)
    (hskipped : ∀ event ∈ skipped, event.Skippable client.nextId)
    (hverdict : verdictOnText client.nextId text = .decided result) (bounded : Bool) :
    ∃ client' log, client.call method params bounded = (some result, client', log) := by
  have hlast : client.unread.any Incoming.isLast = false := by
    rw [List.any_eq_false]
    intro event hmem
    simp [hopen.unread event hmem]
  have hunread : (client.deliver (Request.text ⟨client.nextId, method, params⟩)).unread =
      skipped ++ .text text :: later := by
    rw [← harriving]
    simp only [Client.deliver, Client.arriving, hlast, Bool.false_eq_true, if_false]
  obtain ⟨log, hread⟩ : ∃ log, readAnswer client.nextId bounded .live
      (skipped ++ .text text :: later) = _ :=
    readAnswer_append hskipped (.text text :: later)
  have hdecided : (readAnswer client.nextId bounded .live (.text text :: later)).result =
      some result := by
    simp [readAnswer, Incoming.verdict, hverdict]
  rw [Client.call_of_live hopen.live]
  simp only [hunread, hread, hdecided]
  exact ⟨_, _, rfl⟩

end Arrivals

/-! ## Answers that carry an error object -/

/-- An error object: a code, a message, and data or none. Other members may stand beside them. -/
inductive ErrorObject : Value → Int64 → String → Option Value → Prop
  | mk {members : List (String × Value)} {code : Int64} {message : String} {data : Option Value}
      (hcode : entries "code" members = [.integer (.ofInt64 code)])
      (hmessage : entries "message" members = [.string message])
      (hdata : entries "data" members = data.toList) :
      ErrorObject (.object members) code message data

/-- The text of an answer to request `id` that carries an error object. -/
inductive ErrorAnswer (id : UInt64) : String → Int64 → String → Option Value → Prop
  | mk {text : String} {members : List (String × Value)} {error : Value} {code : Int64}
      {message : String} {data : Option Value} (htree : parseTree text = .ok (.object members))
      (hid : entries "id" members = [.ofUInt64 id]) (hresult : entries "result" members = [])
      (herror : entries "error" members = [error]) (hobject : ErrorObject error code message data) :
      ErrorAnswer id text code message data

/-- The details that the data of an error object are read as, if they can be read. -/
def detailsOf (data : Option Value) : Option (Option FaultData) :=
  optionalMember FaultData.ofTree data.toList

/-- A signed number is read back from its value. -/
theorem int64?_ofInt64 (n : Int64) : (Value.integer (.ofInt64 n)).int64? = some n := by
  have hlower := n.le_toInt
  have hupper := n.toInt_lt
  have hbounds : -9223372036854775808 ≤ n.toInt ∧ n.toInt ≤ 9223372036854775807 := by omega
  have hread : (Value.integer (.ofInt64 n)).integerIn? (-9223372036854775808) 9223372036854775807 =
      some n.toInt := if_pos hbounds
  rw [Value.int64?, hread, Option.map_some, Int64.ofInt_toInt]

/-- An unsigned number is read back from its value. -/
theorem uint64?_ofUInt64 (n : UInt64) : (Value.ofUInt64 n).uint64? = some n := by
  have hupper := n.toNat_lt
  have hbounds : 0 ≤ (n.toNat : Int) ∧ (n.toNat : Int) ≤ 18446744073709551615 := by omega
  have hread : (Value.ofUInt64 n).integerIn? 0 18446744073709551615 = some (n.toNat : Int) :=
    if_pos hbounds
  rw [Value.uint64?, hread, Option.map_some, Int.toNat_natCast, UInt64.ofNat_toNat]

/-- An error object is the fault with its code, its message and the details that its data give. -/
theorem ofTree_of_errorObject {tree : Value} {code : Int64} {message : String}
    {data : Option Value} (h : ErrorObject tree code message data) :
    Fault.ofTree tree = (detailsOf data).map fun details => ⟨code, message, details⟩ := by
  obtain ⟨hcode, hmessage, hdata⟩ := h
  simp only [Fault.ofTree, recordMembers?, Option.bind_some, Fault.ofMembers, hcode, hmessage,
    hdata, requiredMember, int64?_ofInt64, Value.string?, detailsOf]
  cases optionalMember FaultData.ofTree data.toList <;> rfl

/-- An error object answers the call whose id it has: with its fault where the data can be read as
details, else as a malformed message. -/
theorem verdict_of_errorAnswer {id : UInt64} {text : String} {code : Int64} {message : String}
    {data : Option Value} (h : ErrorAnswer id text code message data) :
    match detailsOf data with
    | some details =>
      verdictOnText id text = .decided (.error (.fault ⟨code, message, details⟩))
    | none => ∃ e, verdictOnText id text = .decided (.error (.malformed e)) := by
  obtain ⟨htree, hid, hresult, herror, hobject⟩ := h
  have hfault := ofTree_of_errorObject hobject
  have hparse := parse_eq_ofTree htree
  obtain ⟨hcode, hmessage, hdata⟩ := hobject
  have hidRead : optionalMember Value.uint64? [.ofUInt64 id] = some (some id) :=
    optionalMember_eq_some_some_iff.mpr ⟨_, rfl, nofun, uint64?_ofUInt64 id⟩
  simp only [Response.ofTree, recordMembers?, Option.bind_some, Response.ofMembers, hid, hresult,
    herror, hidRead] at hparse
  cases hdetails : detailsOf data with
  | none =>
    have hrefused : (Response.parse text).toOption = none := by
      simpa [optionalMember, soleMember, Value.optionally, hfault, hdetails] using hparse
    cases hread : Response.parse text with
    | error e => exact ⟨e, by simp only [verdictOnText, hread]⟩
    | ok response => simp [hread] at hrefused
  | some details =>
    have hmade : (Response.parse text).toOption =
        some ⟨some id, none, some ⟨code, message, details⟩⟩ := by
      simpa [optionalMember, soleMember, Value.optionally, hfault, hdetails] using hparse
    cases hread : Response.parse text with
    | error e => simp [hread] at hmade
    | ok response =>
      obtain rfl : response = _ := by simpa [hread] using hmade
      simp [verdictOnText, hread, Response.outcome, Except.mapError]

/-! ## Members of details -/

/-- A member of a record that a tree writes. -/
def recordMember? (names : List String) (name : String) (tree : Value) : Option Value :=
  (recordMembers? names tree).bind (List.lookup name)

/-- The value under a name is the first one that stands under it. -/
theorem lookup_eq_head?_entries (key : String) (members : List (String × Value)) :
    members.lookup key = (entries key members).head? := by
  induction members with
  | nil => rfl
  | cons m members ih =>
    obtain ⟨k, v⟩ := m
    rw [List.lookup_cons]
    by_cases hkey : k = key
    · simp only [entries, hkey, beq_self_eq_true, if_true, List.head?_cons]
    · have hbeq : (key == k) = false := beq_eq_false_iff_ne.mpr (Ne.symm hkey)
      simp only [entries, if_neg hkey, hbeq, ih]

/-- What an optional member is read as is what the member stands for, if null stands for nothing. -/
theorem bind_lookup_of_optionalMember {α : Type} {view : Value → Option α} {key : String}
    {members : List (String × Value)} {found : Option α} (hnull : view .null = none)
    (h : optionalMember view (entries key members) = some found) :
    (members.lookup key).bind view = found := by
  rw [lookup_eq_head?_entries]
  cases found with
  | none =>
    rcases optionalMember_eq_some_none_iff.mp h with hnone | hsole
    · simp [hnone]
    · simp [hsole, hnull]
  | some a =>
    obtain ⟨v, hsole, -, hview⟩ := optionalMember_eq_some_some_iff.mp h
    simp [hsole, hview]

/-- The class of a trace is the string under its name. -/
theorem className_of_ofTree {tree : Value} {trace : FaultTrace}
    (h : FaultTrace.ofTree tree = some trace) :
    (recordMember? ["class"] "class" tree).bind Value.string? = trace.className := by
  obtain ⟨members, hmembers, htrace⟩ := Option.bind_eq_some_iff.mp h
  obtain ⟨className, hclass, hmade⟩ := Option.bind_eq_some_iff.mp htrace
  obtain rfl := Option.some.inj hmade
  rw [recordMember?, hmembers]
  exact bind_lookup_of_optionalMember rfl hclass

/-- A member of details. -/
def detailMember? : String → Value → Option Value :=
  recordMember? ["error", "errname", "reason", "trace"]

/-- The details that are read from a tree are what its members stand for. -/
theorem details_of_ofTree {tree : Value} {details : FaultData}
    (h : FaultData.ofTree tree = some details) :
    (detailMember? "error" tree).bind Value.int32? = details.errno ∧
      (detailMember? "errname" tree).bind Value.string? = details.errname ∧
      (detailMember? "reason" tree).bind Value.string? = details.reason ∧
      ((detailMember? "trace" tree).bind (recordMember? ["class"] "class")).bind Value.string? =
        details.trace.bind FaultTrace.className := by
  obtain ⟨members, hmembers, hdetails⟩ := Option.bind_eq_some_iff.mp h
  obtain ⟨errno, herrno, hdetails⟩ := Option.bind_eq_some_iff.mp hdetails
  obtain ⟨errname, herrname, hdetails⟩ := Option.bind_eq_some_iff.mp hdetails
  obtain ⟨reason, hreason, hdetails⟩ := Option.bind_eq_some_iff.mp hdetails
  obtain ⟨trace, htrace, hdetails⟩ := Option.bind_eq_some_iff.mp hdetails
  obtain rfl := Option.some.inj hdetails
  have hmember (name : String) : detailMember? name tree = members.lookup name := by
    simp only [detailMember?, recordMember?, hmembers, Option.bind_some]
  simp only [hmember]
  refine ⟨bind_lookup_of_optionalMember rfl herrno, bind_lookup_of_optionalMember rfl herrname,
    bind_lookup_of_optionalMember rfl hreason, ?_⟩
  rw [lookup_eq_head?_entries]
  cases trace with
  | none =>
    rcases optionalMember_eq_some_none_iff.mp htrace with hnone | hsole
    · simp [hnone]
    · simp [hsole, recordMember?, recordMembers?]
  | some trace =>
    obtain ⟨v, hsole, -, hview⟩ := optionalMember_eq_some_some_iff.mp htrace
    simpa [hsole] using className_of_ofTree hview

end FailoverControl.Rpc

namespace FailoverControl.Daemon

open FailoverControl.Json
open FailoverControl.Rpc

/-- The class that the data of an error object with a message ask for: the markers of an unreachable
node first, then those of a missing answer, else what the data give as the reason or the message. -/
def reported (message : String) (data : Value) : CallError :=
  let errno := (detailMember? "error" data).bind Value.int32?
  let errname := (detailMember? "errname" data).bind Value.string?
  let className :=
    ((detailMember? "trace" data).bind (recordMember? ["class"] "class")).bind Value.string?
  if errname.any (unreachableNames.contains ·) || errno.any (unreachableNumbers.contains ·) then
    .connectFailure
  else if className.any (· == "CallTimeout") || errname.any (· == "ETIMEDOUT") ||
      errno.any (· == 110) then
    .timeout
  else .other (((detailMember? "reason" data).bind Value.string?).getD message)

/-- A fault is reported as its data have it. -/
theorem ofFault_eq_reported {code : Int64} {message : String} {data : Option Value}
    {details : Option FaultData} (h : detailsOf data = some details) :
    CallError.ofFault ⟨code, message, details⟩ = reported message (data.getD .null) := by
  cases details with
  | none =>
    have hnull : data.getD .null = .null := by
      rcases optionalMember_eq_some_none_iff.mp h with hnone | hsole
      · rw [Option.toList_eq_nil_iff.mp hnone, Option.getD_none]
      · rw [Option.toList_eq_singleton_iff.mp hsole, Option.getD_some]
    rw [hnull]
    rfl
  | some details =>
    obtain ⟨tree, hsole, -, htree⟩ := optionalMember_eq_some_some_iff.mp h
    obtain ⟨herrno, herrname, hreason, hclass⟩ := details_of_ofTree htree
    rw [Option.toList_eq_singleton_iff.mp hsole, Option.getD_some]
    unfold reported
    rw [herrno, herrname, hreason, hclass]
    rfl

/-! ## Calls that an error object answers -/

variable {σ : Type} {client : Client σ} {call : Call}

/-- A classified call comes to the class of what decides the call underneath, unless its deadline
does not fit. -/
theorem invoke_of_decided {result : Except Rpc.Failure Value}
    (hbound : ∀ options, call.options = some options → options.localDeadline?.isSome = true)
    (h : ∀ bounded, ∃ client' log,
      client.call call.method call.args bounded = (some result, client', log)) :
    ∃ client' log, invoke call client =
      .ok ⟨(classify call.method result).1, client', log⟩ := by
  cases hoptions : call.options with
  | none =>
    obtain ⟨client', log, hcall⟩ := h false
    rw [invoke, hoptions]
    exact ⟨_, _, invokeWith_of_decided hcall _⟩
  | some options =>
    obtain ⟨deadline, hdeadline⟩ := Option.isSome_iff_exists.mp (hbound options hoptions)
    obtain ⟨client', log, hcall⟩ := h true
    rw [invoke, hoptions]
    simp only [hdeadline]
    exact ⟨_, _, invokeWith_of_decided hcall _⟩

/-- A call that an error object answers fails with the fault and is given the class that the data
ask for, provided that the data can be read as details; data that cannot make the whole answer a
malformed message. -/
theorem reported_of_errorAnswer (hopen : client.Open)
    (hbound : ∀ options, call.options = some options → options.localDeadline?.isSome = true)
    {skipped later : List Incoming} {text : String}
    (harriving : client.arriving (Request.text ⟨client.nextId, call.method, call.args⟩) =
      skipped ++ .text text :: later)
    (hskipped : ∀ event ∈ skipped, event.Skippable client.nextId)
    {code : Int64} {message : String} {data : Option Value}
    (hanswer : ErrorAnswer client.nextId text code message data) :
    (∀ details, detailsOf data = some details →
      (∀ bounded, (client.call call.method call.args bounded).1 =
        some (.error (.fault ⟨code, message, details⟩))) ∧
      ∃ client' log, invoke call client =
        .ok ⟨.error (reported message (data.getD .null)), client', log⟩) ∧
    (detailsOf data = none → ∃ e,
      (∀ bounded, (client.call call.method call.args bounded).1 =
        some (.error (.malformed e))) ∧
      ∃ client' log, invoke call client =
        .ok ⟨.error (.other (Rpc.Failure.malformed e).message), client', log⟩) := by
  have hverdict := verdict_of_errorAnswer hanswer
  constructor
  · intro details hdetails
    rw [hdetails] at hverdict
    have hcall := Client.call_of_decided hopen harriving hskipped hverdict
    refine ⟨fun bounded => ?_, ?_⟩
    · obtain ⟨client', log, hdecided⟩ := hcall bounded
      rw [hdecided]
    · rw [← ofFault_eq_reported hdetails]
      exact invoke_of_decided hbound hcall
  · intro hdetails
    rw [hdetails] at hverdict
    obtain ⟨e, hmalformed⟩ := hverdict
    have hcall := Client.call_of_decided hopen harriving hskipped hmalformed
    refine ⟨e, fun bounded => ?_, invoke_of_decided hbound hcall⟩
    obtain ⟨client', log, hdecided⟩ := hcall bounded
    rw [hdecided]

/-! ## A busy pool -/

/-- A client whose server answers every request with one text. -/
def answeredBy (text : String) : Client Unit :=
  ⟨"ws://127.0.0.1:6000", 1, .live, [.ping], fun _ state => ([.text text], state), (), []⟩

/-- A connection with one response to come is open. -/
theorem open_answeredBy (text : String) : (answeredBy text).Open :=
  ⟨rfl, fun event hmem => by cases List.mem_singleton.mp hmem; rfl⟩

/-- A call that asks for the pools. -/
def poolQuery : Call := ⟨"pool.query", [], none⟩

/-- The answer that tells of a busy pool, with data. -/
def busyText (data : String) : String :=
  "\x7b\"id\":1,\"error\":\x7b\"code\":-32000,\"message\":\"pool is busy\",\"data\":" ++ data ++
    "\x7d\x7d"

/-- The response of a busy daemon is an error answer to the first request. -/
theorem errorAnswer_busyText {data : String} {tree : Value}
    (h : parseTree (busyText data) = .ok (.object [("id", .ofUInt64 1), ("error", .object
      [("code", .integer (.ofInt64 (-32000))), ("message", .string "pool is busy"),
        ("data", tree)])])) :
    ErrorAnswer 1 (busyText data) (-32000) "pool is busy" (some tree) :=
  .mk h rfl rfl rfl (.mk rfl rfl rfl)

/-- Data with the name of an error mark a node that cannot be reached. -/
theorem reported_busyText_unreachable :
    (answeredBy (busyText "\x7b\"errname\":\"EHOSTDOWN\"\x7d")).Open ∧
      ErrorAnswer 1 (busyText "\x7b\"errname\":\"EHOSTDOWN\"\x7d") (-32000) "pool is busy"
        (some (.object [("errname", .string "EHOSTDOWN")])) ∧
      ∃ client' log, invoke poolQuery
          (answeredBy (busyText "\x7b\"errname\":\"EHOSTDOWN\"\x7d")) =
        .ok ⟨.error .connectFailure, client', log⟩ := by
  have hopen := open_answeredBy (busyText "\x7b\"errname\":\"EHOSTDOWN\"\x7d")
  have hanswer : ErrorAnswer 1 (busyText "\x7b\"errname\":\"EHOSTDOWN\"\x7d") (-32000)
      "pool is busy" (some (.object [("errname", .string "EHOSTDOWN")])) :=
    errorAnswer_busyText rfl
  have hbound : ∀ options, poolQuery.options = some options →
      options.localDeadline?.isSome = true := nofun
  have hskipped : ∀ event ∈ [Incoming.ping], event.Skippable 1 := by
    simp [Incoming.Skippable.ping]
  have harriving : (answeredBy (busyText "\x7b\"errname\":\"EHOSTDOWN\"\x7d")).arriving
      (Request.text ⟨1, poolQuery.method, poolQuery.args⟩) =
        [Incoming.ping] ++ .text (busyText "\x7b\"errname\":\"EHOSTDOWN\"\x7d") :: [] := rfl
  have hreported := reported_of_errorAnswer hopen hbound harriving hskipped hanswer
  exact ⟨hopen, hanswer, (hreported.1 _ rfl).2⟩

/-- Data that are a text make the answer a malformed message, whatever its message says. -/
theorem not_fault_of_textData :
    ErrorAnswer 1 (busyText "\"locked\"") (-32000) "pool is busy" (some (.string "locked")) ∧
      ((answeredBy (busyText "\"locked\"")).call poolQuery.method poolQuery.args false).1 =
        some (.error (.malformed (.typeMismatch (.string "locked") "struct FaultData"))) :=
  ⟨errorAnswer_busyText rfl, rfl⟩

end FailoverControl.Daemon
