/-
Byte strings read as texts by a JavaScript runtime.

`buf.toString('utf8')` reads what is UTF-8 as it is.  Of what is not, it replaces the longest
part that some character begins with, or one byte if there is no such part, and goes on
behind it.  `trim` takes off white space and ends of lines.
-/
import RudraNetra.Lib.GoText
import RudraNetra.Lib.GoStrings

namespace Node

open Go

/-- The second bytes of the characters that begin with the byte and have three or four. -/
def secondByte (b : UInt8) : Option (UInt8 × UInt8) :=
  if b = 0xE0 then some (0xA0, 0xBF)
  else if b = 0xED then some (0x80, 0x9F)
  else if 0xE1 ≤ b ∧ b ≤ 0xEF then some (0x80, 0xBF)
  else if b = 0xF0 then some (0x90, 0xBF)
  else if 0xF1 ≤ b ∧ b ≤ 0xF3 then some (0x80, 0xBF)
  else if b = 0xF4 then some (0x80, 0x8F)
  else none

/-- How many bytes are replaced together, where no character begins. -/
def replaced : List UInt8 → Nat
  | b :: c :: rest =>
    match secondByte b with
    | some (low, high) =>
      if low ≤ c ∧ c ≤ high then
        match rest with
        | d :: _ => if 0xF0 ≤ b ∧ 0x80 ≤ d ∧ d ≤ 0xBF then 3 else 2
        | [] => 2
      else 1
    | none => 1
  | _ => 1

/-- The characters of a byte string; `fuel` is at least the number of bytes. -/
def decodeText : Nat → List UInt8 → List Char
  | 0, _ => []
  | _, [] => []
  | fuel + 1, b :: bs =>
    match (b :: bs).toByteArray.utf8DecodeChar? 0 with
    | some c => c :: decodeText fuel ((b :: bs).drop c.utf8Size)
    | none => '\uFFFD' :: decodeText fuel ((b :: bs).drop (replaced (b :: bs)))

/-- `buf.toString('utf8')` -/
def toText (bytes : List UInt8) : String := String.ofList (decodeText bytes.length bytes)

/-- White space and ends of lines. -/
def isSpace (c : Char) : Bool :=
  c.val ∈ [0x09, 0x0A, 0x0B, 0x0C, 0x0D, 0x20, 0xA0, 0x1680, 0x2028, 0x2029, 0x202F, 0x205F, 0x3000,
    0xFEFF] || (0x2000 ≤ c.val && c.val ≤ 0x200A)

/-- `s.trim()` -/
def trim (s : String) : String := Go.trim isSpace s

-- a character of three bytes that lacks its last one is replaced as a whole
example : toText [0x4F, 0xE2, 0x82, 0x4B] = "O\uFFFDK" := by decide +kernel

theorem decodeText_encode_append (c : Char) (bs : List UInt8) (fuel : Nat) :
    decodeText (fuel + 1) (String.utf8EncodeChar c ++ bs) = c :: decodeText fuel bs := by
  have hdecode : (String.utf8EncodeChar c ++ bs).toByteArray.utf8DecodeChar? 0 = some c := by
    rw [List.toByteArray_append]
    exact ByteArray.utf8DecodeChar?_utf8EncodeChar_append
  obtain ⟨b, rest, hcons⟩ := List.exists_cons_of_ne_nil
    (List.append_ne_nil_of_left_ne_nil (String.utf8EncodeChar_ne_nil (c := c)) bs)
  have hdrop : (String.utf8EncodeChar c ++ bs).drop c.utf8Size = bs :=
    List.drop_left' (String.length_utf8EncodeChar c)
  rw [hcons] at hdecode hdrop ⊢
  rw [decodeText, hdecode]
  exact congrArg (c :: decodeText fuel ·) hdrop

theorem decodeText_encode (cs : List Char) : ∀ fuel,
    (cs.flatMap String.utf8EncodeChar).length ≤ fuel →
      decodeText fuel (cs.flatMap String.utf8EncodeChar) = cs := by
  induction cs with
  | nil =>
      intro fuel _
      cases fuel <;> rfl
  | cons c cs ih =>
      intro fuel hfuel
      rw [List.flatMap_cons] at hfuel ⊢
      rw [List.length_append, String.length_utf8EncodeChar] at hfuel
      have hpos := c.utf8Size_pos
      obtain ⟨k, rfl⟩ := Nat.exists_eq_add_one_of_ne_zero (by omega : fuel ≠ 0)
      rw [decodeText_encode_append, ih k (by omega)]

/-- What is UTF-8 is read as it is. -/
@[simp] theorem toText_bytesOf (s : String) : toText (bytesOf s) = s := by
  rw [toText, bytesOf_eq, decodeText_encode _ _ le_rfl, String.ofList_toList]

end Node
