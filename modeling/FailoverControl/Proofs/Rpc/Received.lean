import FailoverControl.Proofs.Json.CompactText
import FailoverControl.Proofs.Rpc.Answered

/-!
# Requests as the server receives them

The text of a request is read back as the request: an object with the protocol version, the id, the
method and the parameters, and nothing else. No method and no parameter, whatever characters they
hold, can add a member or a line to it. The parameters may have 125 arrays and objects inside one
another, since the request itself is an object around their list; floats are left out, because their
text is read as a decimal that is rounded.

The main statement: every request is conveyed as it was meant, and so is a call that is forwarded
with its bounds (`received_as_meant`).
-/

set_option autoImplicit false

namespace FailoverControl.Rpc

open FailoverControl.Daemon (Call CallOptions)
open FailoverControl.Json

variable {request : Request}

/-! ## The text -/

/-- The text of a request is printable. -/
theorem Request.printable_text (request : Request) : ∀ c ∈ request.text.toList, Printable c := by
  rw [Request.text, Value.text, String.toList_ofList]
  exact printable_chars request.toValue

/-- A request is an object around the list of its parameters. -/
theorem Request.exact_toValue (h : ∀ v ∈ request.params, v.Exact 125) :
    request.toValue.Exact maxDepth := by
  refine .object ?_
  simp only [List.mem_cons, List.not_mem_nil, or_false, forall_eq_or_imp, forall_eq]
  exact ⟨.string _, .integer _, .string _, .array h⟩

/-- The members of a request as a reader keeps them. -/
def Request.readMembers (request : Request) : List (String × Value) :=
  [("id", .ofUInt64 request.id), ("jsonrpc", .string "2.0"), ("method", .string request.method),
    ("params", .array request.params)]

/-- The members of a request are read in the order of their names. -/
theorem Request.pairwise_readMembers (request : Request) :
    request.readMembers.Pairwise fun m m' => m.1 < m'.1 := by
  have hkeys : ["id", "jsonrpc", "method", "params"].Pairwise (· < ·) := by decide
  have hmap : request.readMembers.map Prod.fst = ["id", "jsonrpc", "method", "params"] := rfl
  exact List.pairwise_map.mp (hmap ▸ hkeys)

/-- The value of a request with ordered parameters is settled as its members. -/
theorem Request.settled_toValue (h : ∀ v ∈ request.params, v.Ordered) :
    request.toValue.settled = .object request.readMembers := by
  have hparams : (Value.array request.params).settled = .array request.params :=
    (Value.Ordered.array h).settled_eq_self
  -- The version is written in front of the id; all else is written in order.
  have hversion : insertMember "id" (Value.ofUInt64 request.id)
      (insertMember "jsonrpc" (.string "2.0") []) =
        [("id", .ofUInt64 request.id), ("jsonrpc", .string "2.0")] := if_pos (by decide)
  rw [Request.toValue, Value.settled]
  simp only [settledMembers, hparams, Value.ofMembers, List.foldl_cons]
  simp only [Value.ofUInt64, Value.settled] at hversion ⊢
  rw [hversion]
  exact congrArg Value.object (foldl_insertMember_of_pairwise request.pairwise_readMembers)

/-- The text of a request is read as an object with the members of the request. -/
theorem Request.parse_text (hexact : ∀ v ∈ request.params, v.Exact 125)
    (hordered : ∀ v ∈ request.params, v.Ordered) :
    parse request.text = .ok (.object request.readMembers) := by
  rw [Request.text, Json.parse_text (Request.exact_toValue hexact),
    Request.settled_toValue hordered]

/-- Requests with the same text are the same. -/
theorem eq_of_text_eq {other : Request} (h : ∀ v ∈ request.params, v.Exact 125)
    (hother : ∀ v ∈ other.params, v.Exact 125) (htext : other.text = request.text) :
    other = request := by
  have htree := parseTree_text (Request.exact_toValue h)
  have htree' := parseTree_text (Request.exact_toValue hother)
  have hsame : other.toValue.text = request.toValue.text := htext
  have hvalue : other.toValue = request.toValue := by
    rw [hsame, htree] at htree'
    exact (Except.ok.inj htree').symm
  have hid := id_eq_of_text_eq htext
  cases other
  simp only [Request.toValue, Value.object.injEq, List.cons.injEq, Prod.mk.injEq, true_and,
    and_true, Value.string.injEq, Value.array.injEq] at hid hvalue
  obtain ⟨-, rfl, rfl⟩ := hvalue
  rw [hid]

/-! ## Conveyed requests -/

/-- A request gets to the server as it was meant. -/
structure Request.Conveyed (request : Request) : Prop where
  printable : ∀ c ∈ request.text.toList, 0x20 ≤ c.toNat
  readBack : parse request.text =
    .ok (.object [("id", .ofUInt64 request.id), ("jsonrpc", .string "2.0"),
      ("method", .string request.method), ("params", .array request.params)])
  /-- No other request is mistaken for it. -/
  distinct : ∀ other : Request, (∀ v ∈ other.params, v.Exact 125) → other ≠ request →
    other.text ≠ request.text
  /-- A call with the id of the request makes the server receive its text and nothing else. -/
  received : ∀ {σ : Type} (client : Client σ) (bounded : Bool), client.nextId = request.id →
    (client.call request.method request.params bounded).2.1.delivered =
      client.delivered ++ if client.Reaches then [request.text] else []

/-- A request with exact and ordered parameters is conveyed. -/
theorem Request.conveyed (hexact : ∀ v ∈ request.params, v.Exact 125)
    (hordered : ∀ v ∈ request.params, v.Ordered) : request.Conveyed where
  printable := request.printable_text
  readBack := Request.parse_text hexact hordered
  distinct := fun _ hother hne htext => hne (eq_of_text_eq hexact hother htext)
  received := fun client bounded hid => by
    rw [client.delivered_call, hid]

/-! ## Forwarded calls -/

/-- The whole seconds of a duration as an exact integer. -/
def wholeSeconds (d : Duration) : Integer :=
  ⟨d.seconds, by omega, by have := d.seconds_lt; omega⟩

/-- The bounds of a forwarded call as its third parameter. -/
def boundsValue (options : CallOptions) : Value :=
  .object [("connect_timeout", .integer (wholeSeconds options.connectTimeout)),
    ("timeout", .integer (wholeSeconds options.timeout))]

/-- Bounds are passed on in whole seconds. -/
theorem toValue_eq_boundsValue (options : CallOptions) : options.toValue = boundsValue options := by
  simp [CallOptions.toValue, CallOptions.secondsValue, Value.ofUInt64, Integer.ofUInt64,
    boundsValue, wholeSeconds]

/-- The value of the bounds is exact within one level. -/
theorem exact_boundsValue (options : CallOptions) : (boundsValue options).Exact 1 := by
  refine .object ?_
  simp only [List.mem_cons, List.not_mem_nil, or_false, forall_eq_or_imp, forall_eq]
  exact ⟨.integer _, .integer _⟩

/-- The members of the bounds stand in order. -/
theorem ordered_boundsValue (options : CallOptions) : (boundsValue options).Ordered := by
  refine .object (List.pairwise_pair.mpr ?_) ?_
  · show "connect_timeout" < "timeout"
    decide
  simp only [List.mem_cons, List.not_mem_nil, or_false, forall_eq_or_imp, forall_eq]
  exact ⟨.integer _, .integer _⟩

/-- A forwarded call has its method, its arguments and, if there are any, its bounds as arguments.
-/
theorem args_forwarded (method : String) (args : List Value) (options : Option CallOptions) :
    (Call.forwarded method args options).args =
      [.string method, .array args] ++ options.toList.map boundsValue := by
  simp only [Call.forwarded, funext toValue_eq_boundsValue]

/-- What holds of a string, of a list and of all bounds holds of the parameters of a forwarded
call. -/
theorem forall_mem_forwarded {p : Value → Prop} {method : String} {args : List Value}
    (hmethod : p (.string method)) (hargs : p (.array args))
    (hbounds : ∀ options, p (boundsValue options)) (options : Option CallOptions) :
    ∀ v ∈ (Call.forwarded method args options).args, p v := by
  rw [args_forwarded, List.forall_mem_append, List.forall_mem_cons, List.forall_mem_singleton]
  refine ⟨⟨hmethod, hargs⟩, fun v hv => ?_⟩
  obtain ⟨bounds, -, rfl⟩ := List.mem_map.mp hv
  exact hbounds bounds

/-- A request without floats that does not nest too deep gets to the server as it was meant. So does
a call that is forwarded, as the method, its arguments and, for a bounded one, the whole seconds of
its bounds. -/
theorem received_as_meant {request : Request} (hexact : ∀ v ∈ request.params, v.Exact 125)
    (hordered : ∀ v ∈ request.params, v.Ordered) :
    request.Conveyed ∧
      ∀ (id : UInt64) (method : String) (args : List Value) (options : Option CallOptions),
        (Value.array args).Exact 125 → (∀ v ∈ args, v.Ordered) →
          let call := Call.forwarded method args options
          call.method = "failover.callRemote" ∧
            call.args = [.string method, .array args] ++ options.toList.map boundsValue ∧
            Request.Conveyed ⟨id, call.method, call.args⟩ := by
  refine ⟨Request.conveyed hexact hordered, fun id method args options hargs hkeys => ?_⟩
  have hdeep : ∀ bounds, (boundsValue bounds).Exact 125 := fun bounds =>
    (exact_boundsValue bounds).mono (by decide)
  refine ⟨rfl, args_forwarded method args options, Request.conveyed ?_ ?_⟩
  · exact forall_mem_forwarded (.string method) hargs hdeep options
  · exact forall_mem_forwarded (.string method) (.array hkeys) ordered_boundsValue options

/-- A request whose method and keys try to add members and a line to it. -/
def hostileRequest : Request where
  id := 18446744073709551615
  method := "a\",\"id\":1\x7d\n"
  params := [.array [], .object [("\x01", .null), ("\"", .array [.bool true, .string "\\"])]]

/-- The parameters of the hostile request are exact. -/
theorem hostileRequest_exact : ∀ v ∈ hostileRequest.params, v.Exact 125 := by
  have hinner : (Value.array [.bool true, .string "\\"]).Exact 124 :=
    .array (List.forall_mem_cons.mpr ⟨.bool true, List.forall_mem_singleton.mpr (.string _)⟩)
  refine List.forall_mem_cons.mpr ⟨.array nofun, List.forall_mem_singleton.mpr (.object ?_)⟩
  exact List.forall_mem_cons.mpr ⟨.null, List.forall_mem_singleton.mpr hinner⟩

/-- The parameters of the hostile request are ordered. -/
theorem hostileRequest_ordered : ∀ v ∈ hostileRequest.params, v.Ordered := by
  have hinner : (Value.array [.bool true, .string "\\"]).Ordered :=
    .array (List.forall_mem_cons.mpr ⟨.bool true, List.forall_mem_singleton.mpr (.string _)⟩)
  refine List.forall_mem_cons.mpr ⟨.array nofun, List.forall_mem_singleton.mpr (.object ?_ ?_)⟩
  · exact List.pairwise_pair.mpr (by decide)
  · exact List.forall_mem_cons.mpr ⟨.null, List.forall_mem_singleton.mpr hinner⟩

/-- The request is read back with all of its characters and no other member, and so is its method
when it is forwarded with the standard bounds. -/
theorem received_as_meant_hostile :
    parse hostileRequest.text =
        .ok (.object [("id", .ofUInt64 18446744073709551615), ("jsonrpc", .string "2.0"),
          ("method", .string "a\",\"id\":1\x7d\n"),
          ("params", .array hostileRequest.params)]) ∧
      Request.Conveyed ⟨5, "failover.callRemote",
        [.string hostileRequest.method, .array [], boundsValue .standard]⟩ := by
  obtain ⟨hconveyed, hforwarded⟩ := received_as_meant hostileRequest_exact hostileRequest_ordered
  exact ⟨hconveyed.readBack,
    (hforwarded 5 hostileRequest.method [] (some .standard) (.array nofun) nofun).2.2⟩

end FailoverControl.Rpc
