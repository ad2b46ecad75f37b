import FailoverControl.Proofs.Json.RoundTrip

/-!
# The compact text of a value

Whatever the strings and keys of a value hold, no control character stands in its text, so the text
is one line and nothing inside a string ends it early. A value as programs hold it has the keys of
every object in ascending order; when it holds no float and does not nest too deep, its text is read
back as that value.

The main statements: `printable_chars`, and `parse_text` on reading back.
-/

set_option autoImplicit false

namespace FailoverControl.Json

/-! ## No control characters -/

/-- A character is none of the control characters in front of the blank. -/
def Printable (c : Char) : Prop := 0x20 ≤ c.toNat

instance (c : Char) : Decidable (Printable c) :=
  inferInstanceAs (Decidable (0x20 ≤ c.toNat))

/-- A text is printable when a test of each character says so. -/
theorem printable_of_all {cs : List Char} (h : cs.all (fun c => decide (Printable c)) = true) :
    ∀ c ∈ cs, Printable c :=
  fun c hc => of_decide_eq_true (List.all_eq_true.mp h c hc)

/-- Hexadecimal digits are printable. -/
theorem printable_hexDigit : ∀ n < 16, Printable (Text.hexDigit n) := by
  decide

/-- Numeric characters are printable. -/
theorem printable_of_isNumeric {c : Char} (h : Decimal.isNumeric c = true) : Printable c := by
  rw [Decimal.isNumeric, Bool.or_eq_true] at h
  rcases h with hdigit | hsign
  · have hzero : '0'.toNat ≤ c.toNat := (Char.isDigit_iff_toNat.mp hdigit).1
    exact Nat.le_trans (by decide) hzero
  · have hmem : c ∈ ['.', 'e', '+', '-'] := by simpa using hsign
    exact printable_of_all rfl c hmem

/-- Whatever a character is, its written form is printable. -/
theorem printable_escapeChar (c : Char) : ∀ d ∈ escapeChar c, Printable d := by
  unfold escapeChar
  split
  -- Only the last case has no letter of its own: it is spelled out by its code or stands as it is.
  case h_8 =>
    split
    next hcontrol =>
      have hfront : ∀ d ∈ ['\\', 'u', '0', '0'], Printable d := printable_of_all rfl
      have hhigh := printable_hexDigit (c.toNat / 16) (by omega)
      have hlow := printable_hexDigit (c.toNat % 16) (by omega)
      simp only [List.forall_mem_cons] at hfront ⊢
      exact ⟨hfront.1, hfront.2.1, hfront.2.2.1, hfront.2.2.2.1, hhigh, hlow, nofun⟩
    next hplain => exact List.forall_mem_singleton.mpr (Nat.le_of_not_lt hplain)
  all_goals exact printable_of_all rfl

/-- Whatever a string holds, its text is printable. -/
theorem printable_stringText (s : String) : ∀ c ∈ stringText s, Printable c := by
  have hquote : Printable '"' := by decide
  have hbody : ∀ c ∈ s.toList.flatMap escapeChar, Printable c := by
    intro c hc
    obtain ⟨d, -, hcd⟩ := List.mem_flatMap.mp hc
    exact printable_escapeChar d c hcd
  rw [stringText, List.forall_mem_append, List.forall_mem_cons, List.forall_mem_singleton]
  exact ⟨⟨hquote, hbody⟩, hquote⟩

/-- Integers are printed with printable characters. -/
theorem printable_signedDigits (n : Int) : ∀ c ∈ Decimal.signedDigits n, Printable c :=
  fun _ hc => printable_of_isNumeric (Decimal.isNumeric_of_mem_signedDigits hc)

mutual

/-- No control character stands in the text of a value. -/
theorem printable_chars : (v : Value) → ∀ c ∈ v.chars, Printable c
  | .null => printable_of_all rfl
  | .bool true => printable_of_all rfl
  | .bool false => printable_of_all rfl
  | .integer n => printable_signedDigits n.value
  | .float _ => fun _ hc => printable_of_isNumeric (Decimal.isNumeric_of_mem_text hc)
  | .string s => printable_stringText s
  | .array items => List.forall_mem_cons.mpr ⟨by decide, printable_itemsText items⟩
  | .object members => List.forall_mem_cons.mpr ⟨by decide, printable_membersText members⟩

/-- The text of the items of an array is printable. -/
theorem printable_itemsText : (items : List Value) → ∀ c ∈ itemsText items, Printable c
  | [] => printable_of_all rfl
  | [v] => by
    rw [itemsText, List.forall_mem_append]
    exact ⟨printable_chars v, printable_of_all rfl⟩
  | v :: w :: rest => by
    rw [itemsText, List.forall_mem_append, List.forall_mem_cons]
    exact ⟨printable_chars v, by decide, printable_itemsText (w :: rest)⟩

/-- The text of the members of an object is printable. -/
theorem printable_membersText :
    (members : List (String × Value)) → ∀ c ∈ membersText members, Printable c
  | [] => printable_of_all rfl
  | [(key, v)] => by
    rw [membersText, List.forall_mem_append, List.forall_mem_append, List.forall_mem_cons]
    exact ⟨⟨printable_stringText key, by decide, printable_chars v⟩, printable_of_all rfl⟩
  | (key, v) :: m :: rest => by
    rw [membersText, List.forall_mem_append, List.forall_mem_append, List.forall_mem_cons,
      List.forall_mem_cons]
    exact ⟨⟨printable_stringText key, by decide, printable_chars v⟩, by decide,
      printable_membersText (m :: rest)⟩

end

/-! ## Values in order -/

/-- The keys of every object ascend, so none is repeated. -/
inductive Value.Ordered : Value → Prop
  | null : Ordered .null
  | bool (b : Bool) : Ordered (.bool b)
  | integer (n : Integer) : Ordered (.integer n)
  | float (x : Decimal.Binary64) : Ordered (.float x)
  | string (s : String) : Ordered (.string s)
  | array {items : List Value} (h : ∀ v ∈ items, Ordered v) : Ordered (.array items)
  | object {members : List (String × Value)} (hkeys : members.Pairwise fun m m' => m.1 < m'.1)
      (h : ∀ m ∈ members, Ordered m.2) : Ordered (.object members)

section Members

variable {α : Type} {sorted members : List (String × α)}

/-- A member whose key is greater than all others is put behind them. -/
theorem insertMember_of_forall_lt {key : String} (h : ∀ m ∈ sorted, m.1 < key) (value : α) :
    insertMember key value sorted = sorted ++ [(key, value)] := by
  induction sorted with
  | nil => rfl
  | cons m rest ih =>
    obtain ⟨hlt, hrest⟩ := List.forall_mem_cons.mp h
    rw [insertMember, if_neg (String.lt_asymm hlt), if_neg (String.ne_of_lt hlt).symm, ih hrest,
      List.cons_append]

/-- Members in ascending order are put one behind the other. -/
theorem foldl_insertMember_of_pairwise
    (h : (sorted ++ members).Pairwise fun m m' => m.1 < m'.1) :
    members.foldl (fun sorted m => insertMember m.1 m.2 sorted) sorted = sorted ++ members := by
  induction members generalizing sorted with
  | nil => exact (List.append_nil sorted).symm
  | cons m rest ih =>
    have hbefore : ∀ m' ∈ sorted, m'.1 < m.1 := fun m' hmem =>
      (List.pairwise_append.mp h).2.2 m' hmem m List.mem_cons_self
    rw [List.append_cons] at h ⊢
    rw [List.foldl_cons, insertMember_of_forall_lt hbefore, ih h]

end Members

/-- Nothing is settled in a value whose keys ascend. -/
theorem Value.Ordered.settled_eq_self {v : Value} (h : v.Ordered) : v.settled = v := by
  induction h with
  | null => rfl
  | bool b => rfl
  | integer n => rfl
  | float x => rfl
  | string s => rfl
  | @array items _ ih =>
    have hitems : items.map Value.settled = items.map id := List.map_congr_left ih
    rw [Value.settled, settledItems_eq_map, hitems, List.map_id]
  | @object members hkeys _ ih =>
    have hmembers : members.map (Prod.map id Value.settled) = members.map id :=
      List.map_congr_left fun m hm => Prod.ext rfl (ih m hm)
    rw [Value.settled, settledMembers_eq_map, hmembers, List.map_id, Value.ofMembers,
      foldl_insertMember_of_pairwise (List.nil_append members ▸ hkeys), List.nil_append]

/-- The text of an exact value is read as what the value settles to. -/
theorem parse_text {v : Value} (h : v.Exact maxDepth) : parse v.text = .ok v.settled := by
  rw [parse_eq_settled, parseTree_text h]
  rfl

end FailoverControl.Json
