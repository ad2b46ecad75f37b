import FailoverControl.Cluster.Config
import FailoverControl.Cluster.Role

/-!
# What the answers of the daemon are read as

The readers of truth values, texts, settings and roles, each characterized by the values that it
accepts. A reader accepts one value, or one form of value, for each result, so an answer that is
null, of another kind or unknown is never mistaken for one that counts.
-/

set_option autoImplicit false

namespace FailoverControl.Cluster

open FailoverControl.Json

/-! ## Truth values and texts -/

/-- A truth value is read from itself only. -/
theorem asBool_eq_ok_iff {value : Value} {b : Bool} : value.asBool = .ok b ↔ value = .bool b := by
  cases value <;> simp [Value.asBool, Value.refuse]

/-- A text is read from itself only. -/
theorem asText_eq_ok_iff {value : Value} {s : String} :
    value.asText = .ok s ↔ value = .string s := by
  cases value <;> simp [Value.asText, Value.refuse]

/-- Strings are read as the texts that they hold. -/
theorem mapM_asText_strings (texts : List String) :
    (texts.map Value.string).mapM Value.asText = .ok texts := by
  induction texts with
  | nil => rfl
  | cons text rest ih =>
    rw [List.map_cons, List.mapM_cons, asText_eq_ok_iff.mpr rfl, ih]
    rfl

/-- Values that are all read as texts are the strings of these texts. -/
theorem eq_strings_of_mapM_asText {items : List Value} {texts : List String}
    (h : items.mapM Value.asText = .ok texts) : items = texts.map .string := by
  induction items generalizing texts with
  | nil =>
    obtain rfl : [] = texts := Except.ok.inj h
    rfl
  | cons item rest ih =>
    rw [List.mapM_cons] at h
    cases hitem : item.asText with
    | error e => simp [hitem, bind, Except.bind] at h
    | ok s =>
      cases hrest : rest.mapM Value.asText with
      | error e => simp [hitem, hrest, bind, Except.bind] at h
      | ok ss =>
        simp only [hitem, hrest, bind, Except.bind, pure, Except.pure, Except.ok.injEq] at h
        rw [← h, List.map_cons, asText_eq_ok_iff.mp hitem, ih hrest]

/-- Texts are read from the array of them only. -/
theorem asTexts_eq_ok_iff {value : Value} {texts : List String} :
    value.asTexts = .ok texts ↔ value = .array (texts.map .string) := by
  cases value with
  | array items =>
    simp only [Value.asTexts, Value.array.injEq]
    refine ⟨eq_strings_of_mapM_asText, ?_⟩
    rintro rfl
    exact mapM_asText_strings texts
  | _ => simp [Value.asTexts, Value.refuse]

/-! ## Settings -/

/-- A value that holds the switch in a position: an object with that truth value as its member
`disabled`, or an array of that truth value alone. -/
inductive HoldsSwitch : Value → Bool → Prop
  | member {members : List (String × Value)} {disabled : Bool}
      (h : members.lookup "disabled" = some (.bool disabled)) :
      HoldsSwitch (.object members) disabled
  | sole (disabled : Bool) : HoldsSwitch (.array [.bool disabled]) disabled

/-- Settings are read from the values that hold the switch. -/
theorem ofValue_eq_ok_iff {value : Value} {config : Config} :
    Config.ofValue value = .ok config ↔ HoldsSwitch value config.disabled := by
  have hread (v : Value) :
      v.asBool.map Config.mk = .ok config ↔ v = .bool config.disabled := by
    cases v <;> cases config <;> simp [Value.asBool, Value.refuse, Except.map]
  constructor
  · intro h
    cases value with
    | object members =>
      simp only [Config.ofValue] at h
      cases hmember : members.lookup "disabled" with
      | none => simp [hmember] at h
      | some v =>
        simp only [hmember, hread] at h
        exact .member (by rw [hmember, h])
    | array items =>
      rcases items with _ | ⟨v, _ | ⟨w, rest⟩⟩
      · simp [Config.ofValue] at h
      · simp only [Config.ofValue, hread] at h
        rw [h]
        exact .sole _
      · simp only [Config.ofValue] at h
        cases hv : v.asBool <;>
          simp [hv, bind, Except.bind, throw, throwThe, MonadExceptOf.throw] at h
    | _ => simp [Config.ofValue, Value.refuse] at h
  · rintro (⟨hmember⟩ | _)
    · simp only [Config.ofValue, hmember, hread]
    · simp only [Config.ofValue, hread]

/-! ## Roles -/

/-- Every role but the unknown one is reported under its own identifier only. -/
theorem ofIdentifier_eq_iff {identifier : String} {role : Role} (hknown : role ≠ .unknown) :
    Role.ofIdentifier identifier = role ↔ (identifier, role) ∈ Role.identifiers := by
  constructor
  · intro h
    unfold Role.ofIdentifier at h
    cases hlookup : Role.identifiers.lookup identifier with
    | none =>
      rw [hlookup] at h
      exact absurd h.symm hknown
    | some found =>
      rw [hlookup, Option.getD_some] at h
      obtain ⟨before, after, hsplit, -⟩ := List.lookup_eq_some_iff.mp hlookup
      rw [hsplit, h]
      exact List.mem_append_right before List.mem_cons_self
  · intro h
    simp only [Role.identifiers, List.mem_cons, Prod.mk.injEq, List.not_mem_nil, or_false] at h
    rcases h with ⟨rfl, rfl⟩ | ⟨rfl, rfl⟩ | ⟨rfl, rfl⟩ | ⟨rfl, rfl⟩ | ⟨rfl, rfl⟩ | ⟨rfl, rfl⟩
    all_goals rfl

/-- Only one identifier stands for the active role. -/
theorem ofIdentifier_eq_active_iff {identifier : String} :
    Role.ofIdentifier identifier = .active ↔ identifier = "MASTER" := by
  rw [ofIdentifier_eq_iff (by decide)]
  simp [Role.identifiers]

/-- Only one identifier stands for the standby role. -/
theorem ofIdentifier_eq_standby_iff {identifier : String} :
    Role.ofIdentifier identifier = .standby ↔ identifier = "BACKUP" := by
  rw [ofIdentifier_eq_iff (by decide)]
  simp [Role.identifiers]

end FailoverControl.Cluster
