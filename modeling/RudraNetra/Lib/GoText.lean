/-
Byte strings read as texts.

A reader of UTF-8 that meets a byte which starts no character reads the replacement character
and goes on with the next byte.  So does a client that reads a byte string which was marshalled.
What is UTF-8 is read as it is (`textOf_bytesOf`), and characters of one byte are read wherever
their byte stands.
-/
import RudraNetra.Lib.GoJSON

namespace Go

/-- The characters of a byte string; `fuel` is at least the number of bytes. -/
def decodeText : Nat → List UInt8 → List Char
  | 0, _ => []
  | _, [] => []
  | fuel + 1, b :: bs =>
    match (b :: bs).toByteArray.utf8DecodeChar? 0 with
    | some c => c :: decodeText fuel ((b :: bs).drop c.utf8Size)
    | none => '\uFFFD' :: decodeText fuel bs

/-- A byte string as a text. -/
def textOf (bytes : List UInt8) : String := String.ofList (decodeText bytes.length bytes)

/-! ### What is UTF-8 -/

theorem bytesOf_eq (s : String) : bytesOf s = s.toList.flatMap String.utf8EncodeChar := by
  show s.toByteArray.data.toList = _
  rw [← String.utf8Encode_toList, List.utf8Encode, List.toList_data_toByteArray]

theorem decodeText_encode_append (c : Char) (bs : List UInt8) (fuel : Nat) :
    decodeText (fuel + 1) (String.utf8EncodeChar c ++ bs) = c :: decodeText fuel bs := by
  have hdecode : (String.utf8EncodeChar c ++ bs).toByteArray.utf8DecodeChar? 0 = some c := by
    rw [List.toByteArray_append]
    exact ByteArray.utf8DecodeChar?_utf8EncodeChar_append
  obtain ⟨b, rest, hcons⟩ := List.exists_cons_of_ne_nil
    (List.append_ne_nil_of_left_ne_nil (String.utf8EncodeChar_ne_nil (c := c)) bs)
  have hdrop : (String.utf8EncodeChar c ++ bs).drop c.utf8Size = bs :=
    List.drop_left' (String.length_utf8EncodeChar c)
  rw [hcons] at hdecode hdrop ⊢
  rw [decodeText, hdecode]
  exact congrArg (c :: decodeText fuel ·) hdrop

theorem decodeText_encode (cs : List Char) : ∀ fuel,
    (cs.flatMap String.utf8EncodeChar).length ≤ fuel →
      decodeText fuel (cs.flatMap String.utf8EncodeChar) = cs := by
  induction cs with
  | nil =>
    intro fuel _
    cases fuel <;> rfl
  | cons c cs ih =>
    intro fuel hfuel
    rw [List.flatMap_cons] at hfuel ⊢
    rw [List.length_append, String.length_utf8EncodeChar] at hfuel
    have hpos := c.utf8Size_pos
    obtain ⟨k, rfl⟩ := Nat.exists_eq_add_one_of_ne_zero (by omega : fuel ≠ 0)
    rw [decodeText_encode_append, ih k (by omega)]

/-- What is UTF-8 is read as it is. -/
@[simp] theorem textOf_bytesOf (s : String) : textOf (bytesOf s) = s := by
  rw [textOf, bytesOf_eq, decodeText_encode _ _ le_rfl, String.ofList_toList]

/-! ### Characters of one byte -/

section

variable {c : Char} {b : UInt8}

theorem decodeText_cons (h : String.utf8EncodeChar c = [b]) (bs : List UInt8) (fuel : Nat) :
    decodeText (fuel + 1) (b :: bs) = c :: decodeText fuel bs := by
  have happend := decodeText_encode_append c bs fuel
  rwa [h] at happend

theorem decodeText_replicate (h : String.utf8EncodeChar c = [b]) (bs : List UInt8) (fuel : Nat) :
    ∀ n, decodeText (n + fuel) (List.replicate n b ++ bs) =
      List.replicate n c ++ decodeText fuel bs := by
  intro n
  induction n with
  | zero => simp
  | succ n ih =>
    rw [Nat.add_right_comm, List.replicate_succ, List.cons_append, decodeText_cons h, ih]
    rfl

/-- A character of one byte is read only from its byte. -/
theorem decodeText_head_iff (h : String.utf8EncodeChar c = [b]) (a : UInt8) (bs : List UInt8)
    (fuel : Nat) : (∃ rest, decodeText (fuel + 1) (a :: bs) = c :: rest) ↔ a = b := by
  constructor
  · rintro ⟨rest, hrest⟩
    rw [decodeText] at hrest
    split at hrest
    · rename_i d hdecode
      obtain rfl : d = c := (List.cons.inj hrest).1
      obtain ⟨later, hlater⟩ := ByteArray.exists_of_utf8DecodeChar?_eq_some hdecode
      have hbytes := congrArg (fun bytes : ByteArray => bytes.data.toList) hlater
      simp only [h, List.toList_data_toByteArray, ByteArray.data_append, Array.toList_append] at hbytes
      exact (List.cons.inj hbytes).1
    · obtain rfl : '\uFFFD' = c := (List.cons.inj hrest).1
      have hsize : ('\uFFFD').utf8Size = 1 := by
        rw [← String.length_utf8EncodeChar, h]
        rfl
      exact absurd hsize (by decide)
  · rintro rfl
    exact ⟨_, decodeText_cons h bs fuel⟩

/-- The text begins with a character of one byte so often as the bytes do with its byte. -/
theorem decodeText_take_iff (h : String.utf8EncodeChar c = [b]) (n : Nat) : ∀ (fuel : Nat)
    (bs : List UInt8), bs.length ≤ fuel →
      ((decodeText fuel bs).take n = List.replicate n c ↔ bs.take n = List.replicate n b) := by
  induction n with
  | zero => simp
  | succ n ih =>
    intro fuel bs hfuel
    match fuel, bs with
    | 0, [] => simp [decodeText]
    | fuel + 1, [] => simp [decodeText]
    | fuel + 1, a :: bs =>
      by_cases ha : a = b
      · subst ha
        rw [decodeText_cons h]
        simpa [List.replicate_succ] using ih fuel bs (Nat.le_of_succ_le_succ hfuel)
      · refine iff_of_false (fun htext => ha ?_) fun hbytes => ha (List.cons.inj hbytes).1
        refine (decodeText_head_iff h a bs fuel).mp ?_
        rcases hdecode : decodeText (fuel + 1) (a :: bs) with _ | ⟨d, rest⟩
        · simp [hdecode, List.replicate_succ] at htext
        · rw [hdecode, List.replicate_succ] at htext
          exact ⟨rest, congrArg (· :: rest) (List.cons.inj htext).1⟩

theorem length_decodeText_le (fuel : Nat) : ∀ bs : List UInt8,
    (decodeText fuel bs).length ≤ fuel := by
  induction fuel with
  | zero => exact fun bs => le_rfl
  | succ fuel ih =>
    rintro (_ | ⟨b, bs⟩)
    · exact Nat.zero_le _
    · rw [decodeText]
      split <;> exact Nat.succ_le_succ (ih _)

end

example : textOf [0x6F, 0xAC, 0x6B] = "o\uFFFDk" := by decide

end Go
