import FailoverControl.Text.Quoted

/-!
# Log entries

What the program tells about its own work: a level, the part of the program that speaks, a message,
and named values that are written behind it. Control characters in a message that a terminal could
obey are spelled out. The main statement: what a line shows of a message holds none of them.
-/

set_option autoImplicit false

namespace FailoverControl.Log

/-- How much an entry matters, the most important first. -/
inductive Level where
  | error
  | warn
  | info
  | debug
  | trace
deriving DecidableEq, Repr

/-- The name of a level. -/
def Level.name : Level → String
  | .error => "ERROR"
  | .warn => "WARN"
  | .info => "INFO"
  | .debug => "DEBUG"
  | .trace => "TRACE"

/-- How detailed a level is, from one on. -/
def Level.detail : Level → Nat
  | .error => 1
  | .warn => 2
  | .info => 3
  | .debug => 4
  | .trace => 5

/-- One log entry; its fields are names and values. -/
structure Entry where
  level : Level
  target : String
  message : String
  fields : List (String × String)
deriving DecidableEq, Repr

/-- The name of the message among the fields of an entry. -/
def messageField : String := "message"

/-- The names of all fields of an entry. -/
def Entry.fieldNames (entry : Entry) : List String :=
  messageField :: entry.fields.map Prod.fst

/-- Whether a character is a control character of ASCII that a terminal could obey. -/
def isCommanding (c : Char) : Bool :=
  ['\x07', '\x08', '\x0c', '\x1b', '\x7f'].contains c

/-- Whether a character is a control character beyond ASCII. -/
def isUpperControl (c : Char) : Bool :=
  0x80 ≤ c.toNat && c.toNat ≤ 0x9f

/-- A character of a message as a line shows it. -/
def shownChar (c : Char) : List Char :=
  let number := [Text.hexDigit (c.toNat / 16), Text.hexDigit (c.toNat % 16)]
  if isCommanding c then ['\\', 'x'] ++ number
  else if isUpperControl c then ['\\', 'u', '\x7b'] ++ number ++ ['\x7d']
  else [c]

/-- A message as a line shows it. -/
def shownMessage (message : String) : String :=
  String.ofList (message.toList.flatMap shownChar)

/-- An entry as one line. -/
def Entry.line (entry : Entry) : String :=
  entry.level.name ++ " " ++ entry.target ++ ": " ++ shownMessage entry.message ++
    String.join (entry.fields.map fun (name, value) => " " ++ name ++ "=" ++ value)

/-- Digits of numbers in base sixteen are no control characters. -/
theorem isCommanding_hexDigit :
    ∀ n < 16,
      isCommanding (Text.hexDigit n) = false ∧ isUpperControl (Text.hexDigit n) = false := by
  decide

/-- What is shown of a character of a message holds no character that a terminal could obey. -/
theorem not_isCommanding_of_mem_shownChar {c d : Char} (h : d ∈ shownChar c) :
    isCommanding d = false ∧ isUpperControl d = false := by
  have low := isCommanding_hexDigit (c.toNat % 16) (Nat.mod_lt _ (by decide))
  unfold shownChar at h
  dsimp only at h
  split at h
  · rename_i hc
    have high := isCommanding_hexDigit (c.toNat / 16) (by
      simp only [isCommanding, List.contains_cons, List.contains_nil, Bool.or_false,
        Bool.or_eq_true, beq_iff_eq] at hc
      rcases hc with rfl | rfl | rfl | rfl | rfl <;> decide)
    simp only [List.cons_append, List.nil_append, List.mem_cons, List.not_mem_nil, or_false] at h
    rcases h with rfl | rfl | rfl | rfl
    · decide
    · decide
    · exact high
    · exact low
  · split at h
    · rename_i hc
      have high := isCommanding_hexDigit (c.toNat / 16) (by
        simp only [isUpperControl, Bool.and_eq_true, decide_eq_true_eq] at hc
        omega)
      simp only [List.cons_append, List.nil_append, List.mem_cons, List.not_mem_nil, or_false] at h
      rcases h with rfl | rfl | rfl | rfl | rfl | rfl
      · decide
      · decide
      · decide
      · exact high
      · exact low
      · decide
    · rename_i h1 h2
      obtain rfl : d = c := List.mem_singleton.1 h
      exact ⟨Bool.eq_false_iff.2 h1, Bool.eq_false_iff.2 h2⟩

/-- What a line shows of a message holds no character that a terminal could obey. -/
theorem not_isCommanding_of_mem_shownMessage {message : String} {c : Char}
    (h : c ∈ (shownMessage message).toList) :
    isCommanding c = false ∧ isUpperControl c = false := by
  rw [shownMessage, String.toList_ofList, List.mem_flatMap] at h
  obtain ⟨d, _, hc⟩ := h
  exact not_isCommanding_of_mem_shownChar hc

end FailoverControl.Log
