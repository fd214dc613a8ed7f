/-
The syntax of PDF files, as far as text on a page needs it.

A file is bytes, and its structure is ASCII text between them: numbers in decimal digits,
cross-reference entries of twenty bytes, and strings in parentheses.  A string may hold
parentheses that balance and escapes behind a backslash, so `literals` reads a content
stream byte by byte and keeps how deep it is.

A text is written so that it comes back (`read_escaped`) if each backslash and each
parenthesis has a backslash before it and no carriage return is in it: the reader takes
every end of a line for a line feed.
-/
import RudraNetra.Lib.Wire

namespace PDF

open Wire

/-! ### Text and numbers -/

/-- A text whose characters are ASCII. -/
def ascii (s : String) : List UInt8 := s.toList.map fun c => UInt8.ofNat c.toNat

/-- `%d` -/
def decimal (n : Nat) : List UInt8 := (Nat.toDigits 10 n).map fun c => UInt8.ofNat c.toNat

/-- `%0wd` -/
def padded (w n : Nat) : List UInt8 := List.replicate (w - (decimal n).length) 48 ++ decimal n

def isDigit (b : UInt8) : Bool := 48 ≤ b && b ≤ 57

/-- The number that digits write. -/
def numberOf (bs : List UInt8) : Option Nat :=
  if bs.all isDigit then some (Nat.ofDigitChars 10 (bs.map fun b => Char.ofNat b.toNat) 0)
  else none

theorem toNat_of_isDigit {c : Char} (h : c.isDigit) : c.toNat < 128 := by
  have hc : 48 ≤ c.toNat ∧ c.toNat ≤ 57 := by simpa [Char.isDigit, UInt32.le_iff_toNat_le] using h
  omega

/-- An ASCII character comes back from its byte. -/
theorem char_of_byte {c : Char} (h : c.toNat < 128) :
    Char.ofNat (UInt8.ofNat c.toNat).toNat = c := by
  rw [UInt8.toNat_ofNat_of_lt' (show c.toNat < 2 ^ 8 by omega), Char.ofNat_toNat]

theorem isDigit_decimal {n : Nat} {b : UInt8} (h : b ∈ decimal n) : isDigit b = true := by
  obtain ⟨c, hc, rfl⟩ := List.mem_map.mp h
  have hdigit := Nat.isDigit_of_mem_toDigits (by decide) (by decide) hc
  have hrange : 48 ≤ c.toNat ∧ c.toNat ≤ 57 := by
    simpa [Char.isDigit, UInt32.le_iff_toNat_le] using hdigit
  unfold isDigit
  rw [Bool.and_eq_true, decide_eq_true_eq, decide_eq_true_eq, UInt8.le_iff_toNat_le,
    UInt8.le_iff_toNat_le, UInt8.toNat_ofNat_of_lt' (show c.toNat < 2 ^ 8 by omega)]
  exact hrange

theorem chars_decimal (n : Nat) :
    (decimal n).map (fun b => Char.ofNat b.toNat) = Nat.toDigits 10 n := by
  unfold decimal
  rw [List.map_map]
  refine (List.map_congr_left fun c hc => ?_).trans (List.map_id _)
  exact char_of_byte (toNat_of_isDigit (Nat.isDigit_of_mem_toDigits (by decide) (by decide) hc))

/-- Zeros in front of a number do not change it. -/
theorem numberOf_padded (w n : Nat) : numberOf (padded w n) = some n := by
  have hall : (padded w n).all isDigit = true := by
    rw [List.all_eq_true]
    intro b hb
    rcases List.mem_append.mp hb with hzero | hdigit
    · rw [List.eq_of_mem_replicate hzero]
      rfl
    · exact isDigit_decimal hdigit
  have hzeros : (List.replicate (w - (decimal n).length) (48 : UInt8)).map
      (fun b => Char.ofNat b.toNat) = List.replicate (w - (decimal n).length) '0' := by
    rw [List.map_replicate]
    rfl
  rw [numberOf, if_pos hall, padded, List.map_append, hzeros, chars_decimal,
    Nat.ofDigitChars_append, Nat.ofDigitChars_replicate_zero, Nat.mul_zero,
    Nat.ofDigitChars_ten_toDigits]

theorem padded_length {w n : Nat} (hw : 0 < w) (h : n < 10 ^ w) : (padded w n).length = w := by
  have hle : (decimal n).length ≤ w := by
    rw [decimal, List.length_map]
    exact (Nat.length_toDigits_le_iff (by decide) hw).mpr h
  rw [padded, List.length_append, List.length_replicate]
  omega

/-! ### Cross-reference entries -/

/-- The entry of an object that is in use. -/
def entry (offset : Nat) : List UInt8 := padded 10 offset ++ ascii " 00000 n \n"

/-- The offset of an entry, which has ten digits in twenty bytes. -/
def offsetOf (bs : List UInt8) : Option Nat :=
  if bs.length = 20 ∧ bs.drop 10 = ascii " 00000 n \n" then numberOf (bs.take 10) else none

theorem entry_length {offset : Nat} (h : offset < 10 ^ 10) : (entry offset).length = 20 := by
  rw [entry, List.length_append, padded_length (by decide) h]
  rfl

theorem offsetOf_entry {offset : Nat} (h : offset < 10 ^ 10) :
    offsetOf (entry offset) = some offset := by
  have hten := padded_length (by decide) h
  rw [offsetOf, if_pos ⟨entry_length h, by rw [entry, List.drop_left' hten]⟩, entry,
    List.take_left' hten, numberOf_padded]

/-! ### Strings in a content stream -/

/-- Where the reader is. -/
inductive Mode where
  | outside
  | comment
  /-- Inside a string, in so many parentheses more than its own. -/
  | string (depth : Nat)
  /-- Behind a backslash. -/
  | escape (depth : Nat)
  /-- Behind a backslash and so many octal digits. -/
  | octal (depth digits value : Nat)
  /-- Behind a carriage return, of which a line feed would be a part. -/
  | carriageReturn (depth : Nat)

/-- The strings that were read, and the text of the one that is being read. -/
structure Reading where
  mode : Mode
  text : List UInt8
  strings : List (List UInt8)

def backslash : UInt8 := 0x5C
def opening : UInt8 := 0x28
def closing : UInt8 := 0x29
def percent : UInt8 := 0x25
def lineFeed : UInt8 := 0x0A
def carriageReturn : UInt8 := 0x0D

def Reading.add (r : Reading) (mode : Mode) (b : UInt8) : Reading :=
  ⟨mode, r.text ++ [b], r.strings⟩

/-- A byte of a string that stands for itself or a parenthesis. -/
def Reading.byte (r : Reading) (depth : Nat) (b : UInt8) : Reading :=
  if b = backslash then ⟨.escape depth, r.text, r.strings⟩
  else if b = opening then r.add (.string (depth + 1)) b
  else if b = closing then
    match depth with
    | 0 => ⟨.outside, [], r.strings ++ [r.text]⟩
    | depth + 1 => r.add (.string depth) b
  else if b = carriageReturn then r.add (.carriageReturn depth) lineFeed
  else r.add (.string depth) b

def isOctal (b : UInt8) : Bool := 48 ≤ b && b ≤ 55

/-- The byte behind a backslash. -/
def Reading.escaped (r : Reading) (depth : Nat) (b : UInt8) : Reading :=
  if isOctal b then ⟨.octal depth 1 (b.toNat - 48), r.text, r.strings⟩
  else if b = lineFeed then ⟨.string depth, r.text, r.strings⟩
  else if b = carriageReturn then ⟨.carriageReturn depth, r.text, r.strings⟩
  else if b = 0x6E then r.add (.string depth) lineFeed
  else if b = 0x72 then r.add (.string depth) carriageReturn
  else if b = 0x74 then r.add (.string depth) 0x09
  else if b = 0x62 then r.add (.string depth) 0x08
  else if b = 0x66 then r.add (.string depth) 0x0C
  -- before any other byte the backslash means nothing
  else r.add (.string depth) b

/-- Reads one byte. -/
def Reading.step (r : Reading) (b : UInt8) : Reading :=
  match r.mode with
  | .outside =>
    if b = opening then ⟨.string 0, [], r.strings⟩
    else if b = percent then ⟨.comment, r.text, r.strings⟩
    else r
  | .comment => if b = lineFeed ∨ b = carriageReturn then ⟨.outside, r.text, r.strings⟩ else r
  | .string depth => r.byte depth b
  | .escape depth => r.escaped depth b
  | .octal depth digits value =>
    if isOctal b ∧ digits < 3 then
      ⟨.octal depth (digits + 1) (8 * value + (b.toNat - 48)), r.text, r.strings⟩
    else (r.add (.string depth) (UInt8.ofNat value)).byte depth b
  | .carriageReturn depth =>
    if b = lineFeed then ⟨.string depth, r.text, r.strings⟩ else r.byte depth b

/-- The strings of a content stream, if the parentheses of each balance. -/
def literals (stream : List UInt8) : Option (List (List UInt8)) :=
  let r := stream.foldl Reading.step ⟨.outside, [], []⟩
  match r.mode with
  | .outside => some r.strings
  | .comment => some r.strings
  | _ => none

/-- Text between strings: no string begins in it, and no comment. -/
def Between (bs : List UInt8) : Prop := ∀ b ∈ bs, b ≠ opening ∧ b ≠ percent

theorem read_between {bs : List UInt8} (h : Between bs) (text : List UInt8)
    (strings : List (List UInt8)) :
    bs.foldl Reading.step ⟨.outside, text, strings⟩ = ⟨.outside, text, strings⟩ := by
  induction bs with
  | nil => rfl
  | cons b bs ih =>
      obtain ⟨hopen, hpercent⟩ := h b List.mem_cons_self
      have hstep : Reading.step ⟨.outside, text, strings⟩ b = ⟨.outside, text, strings⟩ := by
        simp only [Reading.step]
        rw [if_neg hopen, if_neg hpercent]
      rw [List.foldl_cons, hstep]
      exact ih fun c hc => h c (List.mem_cons_of_mem b hc)

/-! ### Escaped text -/

/-- Puts a backslash before each backslash and each parenthesis. -/
def escape (text : List UInt8) : List UInt8 :=
  text.flatMap fun b =>
    if b = backslash ∨ b = opening ∨ b = closing then [backslash, b] else [b]

/-- A byte comes back from how it is escaped. -/
theorem read_escaped_byte {b : UInt8} (hb : b ≠ carriageReturn) (text : List UInt8)
    (strings : List (List UInt8)) :
    (if b = backslash ∨ b = opening ∨ b = closing then [backslash, b] else [b]).foldl Reading.step
      ⟨.string 0, text, strings⟩ = ⟨.string 0, text ++ [b], strings⟩ := by
  split_ifs with hspecial
  · have hback : Reading.step ⟨.string 0, text, strings⟩ backslash =
        ⟨.escape 0, text, strings⟩ := rfl
    rw [List.foldl_cons, hback]
    rcases hspecial with rfl | rfl | rfl <;> rfl
  · simp only [not_or] at hspecial
    obtain ⟨hback, hopen, hclose⟩ := hspecial
    simp only [List.foldl_cons, List.foldl_nil, Reading.step, Reading.byte]
    rw [if_neg hback, if_neg hopen, if_neg hclose, if_neg hb]
    rfl

/-- **An escaped text comes back, whatever is in it but carriage returns.** -/
theorem read_escaped {line : List UInt8} (h : carriageReturn ∉ line) (text : List UInt8)
    (strings : List (List UInt8)) :
    (escape line).foldl Reading.step ⟨.string 0, text, strings⟩ =
      ⟨.string 0, text ++ line, strings⟩ := by
  induction line generalizing text with
  | nil => simp [escape]
  | cons b line ih =>
      obtain ⟨hb, hline⟩ := not_or.mp (fun hc => h (List.mem_cons.mpr hc))
      rw [escape, List.flatMap_cons, List.foldl_append, read_escaped_byte (Ne.symm hb)]
      rw [escape] at ih
      rw [ih hline, List.append_assoc, List.singleton_append]

end PDF
