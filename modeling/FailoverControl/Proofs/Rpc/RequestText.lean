import FailoverControl.Proofs.Decimal.Characters
import FailoverControl.Rpc.Message

/-!
# The texts of requests

The text of a request begins with the protocol version and the id, so it tells the id, and a string
in it reads back as that string. A server that has received the text of a request knows which
request it was, and requests with different ids, methods or first strings are never mistaken for
each other on the wire.

The main statements: requests with the same text have the same id (`id_eq_of_text_eq`) and the same
method, and a string that is the first parameter of one is that of the other
(`method_and_string_eq_of_text_eq`).
-/

set_option autoImplicit false

namespace FailoverControl.Json

/-! ## Strings -/

/-- A code below the blank is read back from its two last hexadecimal digits. -/
theorem hexQuad?_hexDigits : ∀ n < 32,
    hexQuad? '0' '0' (Text.hexDigit (n / 16)) (Text.hexDigit (n % 16)) = some n := by
  decide

/-- A character that needs no escape is read as it stands. -/
theorem readStringBody_plain {c : Char} {rest : List Char} (hquote : c ≠ '"')
    (hbackslash : c ≠ '\\') (hcontrol : ¬ c.toNat < 0x20) :
    readStringBody (c :: rest) = consChar c (readStringBody rest) := by
  rw [readStringBody, if_neg hcontrol]
  all_goals
    intros
    contradiction

/-- The written form of a character reads back as that character. -/
theorem readStringBody_escapeChar (c : Char) (rest : List Char) :
    readStringBody (escapeChar c ++ rest) = consChar c (readStringBody rest) := by
  unfold escapeChar
  split
  -- Only the last case has no letter of its own: it is spelled out by its code or stands as it is.
  case h_8 hquote hbackslash _ _ _ _ _ =>
    split
    · rename_i hcontrol
      have hquad := hexQuad?_hexDigits c.toNat hcontrol
      have hlow : isLowSurrogate c.toNat = false := by
        simp [isLowSurrogate]
        omega
      have hhigh : isHighSurrogate c.toNat = false := by
        simp [isHighSurrogate]
        omega
      simp only [List.cons_append, List.nil_append]
      rw [readStringBody, hquad]
      simp only [hlow, hhigh, Bool.false_eq_true, if_false, Char.ofNat_toNat]
    · rename_i hcontrol
      exact readStringBody_plain hquote hbackslash hcontrol
  all_goals rfl

/-- A string reads back from its text, whatever stands behind it. -/
theorem readString_stringText (s : String) (rest : List Char) :
    readString (s.toList.flatMap escapeChar ++ '"' :: rest) = .ok (s, rest) := by
  have hbody (cs : List Char) :
      readStringBody (cs.flatMap escapeChar ++ '"' :: rest) = .ok (cs, rest) := by
    induction cs with
    | nil => rfl
    | cons c cs ih =>
      rw [List.flatMap_cons, List.append_assoc, readStringBody_escapeChar, ih]
      rfl
  rw [readString, hbody]
  simp [Except.map]

/-- The string that a text begins with, if it begins with one. -/
def leadingString? : List Char → Option String
  | '"' :: rest => (readString rest).toOption.map Prod.fst
  | _ => none

/-- The string in front of a text is found. -/
theorem leadingString?_stringText (s : String) (rest : List Char) :
    leadingString? (stringText s ++ rest) = some s := by
  have htext : stringText s ++ rest = '"' :: (s.toList.flatMap escapeChar ++ '"' :: rest) := by
    simp [stringText]
  rw [htext, leadingString?, readString_stringText]
  rfl

/-- A text that does not begin with a quote has no string in front. -/
theorem leadingString?_eq_none {cs : List Char} (h : cs.head? ≠ some '"') :
    leadingString? cs = none := by
  unfold leadingString?
  split
  · exact absurd rfl h
  · rfl

/-! ## Values that are no strings -/

/-- No numeric character is a quote. -/
theorem ne_quote_of_isNumeric {c : Char} (h : Decimal.isNumeric c = true) : c ≠ '"' := by
  rintro rfl
  cases h

/-- The text of a value begins with a string only when the value is one. -/
theorem leadingString?_chars {v : Value} {mark : Char} (hmark : mark ≠ '"') (rest : List Char) :
    leadingString? (v.chars ++ mark :: rest) = v.string? := by
  cases v with
  | string s => exact leadingString?_stringText s _
  | null => rfl
  | bool b => cases b <;> rfl
  | array items => rfl
  | object members => rfl
  | integer n =>
    refine leadingString?_eq_none ?_
    rw [Value.chars, Decimal.signedDigits]
    split
    · simp
    · cases hdigits : Decimal.digits n.value.natAbs with
      | nil => exact absurd hdigits (Decimal.digits_ne_nil _)
      | cons c cs =>
        have hc : c ≠ '"' :=
          ne_quote_of_isNumeric (Decimal.isNumeric_of_mem_digits (hdigits ▸ List.mem_cons_self))
        simpa using hc
  | float x =>
    refine leadingString?_eq_none ?_
    rw [Value.chars]
    cases htext : x.text with
    | nil => simpa using hmark
    | cons c cs =>
      have hc : c ≠ '"' :=
        ne_quote_of_isNumeric (Decimal.isNumeric_of_mem_text (htext ▸ List.mem_cons_self))
      simpa using hc

/-- The items of an array begin with a string only when the first one is that string. -/
theorem leadingString?_itemsText (items : List Value) (rest : List Char) :
    leadingString? (itemsText items ++ rest) = items.head?.bind Value.string? := by
  match items with
  | [] => rfl
  | [v] =>
    rw [itemsText, List.append_assoc]
    exact leadingString?_chars (by decide) rest
  | v :: w :: others =>
    rw [itemsText, List.append_assoc]
    exact leadingString?_chars (by decide) _

end FailoverControl.Json

namespace FailoverControl.Rpc

open FailoverControl.Json

/-! ## Requests -/

/-- Two numbers that are written in front of the same mark are equal. -/
theorem eq_of_digits_append_eq {m n : Nat} {mark : Char} (hmark : mark.isDigit = false)
    {rest rest' : List Char}
    (h : Decimal.digits m ++ mark :: rest = Decimal.digits n ++ mark :: rest') : m = n := by
  -- The mark is no digit, so the number ends where the digits end.
  have hfront (k : Nat) (tail : List Char) :
      (Decimal.digits k ++ mark :: tail).takeWhile Char.isDigit = Decimal.digits k := by
    rw [List.takeWhile_append_of_pos (Decimal.isDigit_of_mem_digits k),
      List.takeWhile_cons_of_neg (by simp [hmark]), List.append_nil]
  have hdigits : Decimal.digits m = Decimal.digits n := by
    rw [← hfront m rest, h, hfront]
  rw [← Decimal.ofDigits_digits m, hdigits, Decimal.ofDigits_digits]

/-- What stands in the text of every request before its id. -/
def requestFront : List Char :=
  '\x7b' :: (stringText "jsonrpc" ++ ':' :: stringText "2.0" ++ ',' :: stringText "id" ++ [':'])

/-- What stands in the text of a request behind its id. -/
def requestRest (request : Request) : List Char :=
  stringText "method" ++ ':' :: (stringText request.method ++ ',' ::
    (stringText "params" ++ ':' :: '[' :: (itemsText request.params ++ ['\x7d'])))

/-- The text of a request is the common front, the digits of the id and the rest behind a comma. -/
theorem chars_toValue (request : Request) :
    request.toValue.chars =
      requestFront ++ (Decimal.digits request.id.toNat ++ ',' :: requestRest request) := by
  have hid : (Value.ofUInt64 request.id).chars = Decimal.digits request.id.toNat := by
    simp [Value.ofUInt64, Integer.ofUInt64, Value.chars, Decimal.signedDigits]
  simp only [Request.toValue, Value.chars, membersText, hid, requestFront, requestRest]
  simp

/-- Equal texts of requests are equal part by part. -/
theorem chars_eq_of_text_eq {request request' : Request} (h : request.text = request'.text) :
    requestFront ++ (Decimal.digits request.id.toNat ++ ',' :: requestRest request) =
      requestFront ++ (Decimal.digits request'.id.toNat ++ ',' :: requestRest request') := by
  have hchars : request.toValue.chars = request'.toValue.chars := String.ofList_injective h
  rwa [chars_toValue, chars_toValue] at hchars

/-- Requests with the same text have the same id. -/
theorem id_eq_of_text_eq {request request' : Request} (h : request.text = request'.text) :
    request.id = request'.id := by
  have hnat := eq_of_digits_append_eq (by decide) (List.append_cancel_left (chars_eq_of_text_eq h))
  exact UInt64.toNat_inj.mp hnat

/-- Requests with the same text ask for the same method, and a string that is the first parameter of
one is that of the other. -/
theorem method_and_string_eq_of_text_eq {request request' : Request}
    (h : request.text = request'.text) :
    request.method = request'.method ∧
      request.params.head?.bind Value.string? = request'.params.head?.bind Value.string? := by
  have hrest : requestRest request = requestRest request' := by
    have hchars := chars_eq_of_text_eq h
    rw [id_eq_of_text_eq h] at hchars
    exact (List.cons.inj (List.append_cancel_left (List.append_cancel_left hchars))).2
  -- What stands behind the method on both sides begins with the method.
  have hbehind := (List.cons.inj (List.append_cancel_left hrest)).2
  have hmethod : request.method = request'.method := by
    have hleading := congrArg leadingString? hbehind
    rw [leadingString?_stringText, leadingString?_stringText] at hleading
    exact Option.some.inj hleading
  rw [hmethod] at hbehind
  have hparams := (List.cons.inj (List.append_cancel_left hbehind)).2
  have hitems := (List.cons.inj (List.cons.inj (List.append_cancel_left hparams)).2).2
  refine ⟨hmethod, ?_⟩
  rw [← leadingString?_itemsText request.params, hitems, leadingString?_itemsText]

end FailoverControl.Rpc
