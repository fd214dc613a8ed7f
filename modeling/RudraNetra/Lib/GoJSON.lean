/-
Texts as `encoding/json` writes them.

A Go string is a byte string.  Marshalling puts it in quotes, escapes quotes,
backslashes, control characters and the characters that mean something in HTML, and
writes what is not UTF-8 as the replacement character.
-/
import RudraNetra.Lib.Wire

namespace Go

/-- The bytes of a text. -/
def bytesOf (s : String) : List UInt8 := s.toUTF8.data.toList

def isContinuation (b : UInt8) : Bool := 0x80 ≤ b && b ≤ 0xBF

/-- The length of the character of several bytes that the bytes start with, if they do. -/
def multiByte : List UInt8 → Option Nat
  | b₀ :: b₁ :: rest =>
    if 0xC2 ≤ b₀ && b₀ ≤ 0xDF then if isContinuation b₁ then some 2 else none
    else if 0xE0 ≤ b₀ && b₀ ≤ 0xEF then
      -- no overlong forms and no surrogates
      let lo : UInt8 := if b₀ = 0xE0 then 0xA0 else 0x80
      let hi : UInt8 := if b₀ = 0xED then 0x9F else 0xBF
      match rest with
      | b₂ :: _ => if lo ≤ b₁ && b₁ ≤ hi && isContinuation b₂ then some 3 else none
      | [] => none
    else if 0xF0 ≤ b₀ && b₀ ≤ 0xF4 then
      let lo : UInt8 := if b₀ = 0xF0 then 0x90 else 0x80
      let hi : UInt8 := if b₀ = 0xF4 then 0x8F else 0xBF
      match rest with
      | b₂ :: b₃ :: _ =>
        if lo ≤ b₁ && b₁ ≤ hi && isContinuation b₂ && isContinuation b₃ then some 4 else none
      | _ => none
    else none
  | _ => none

/-- A lower-case hexadecimal digit. -/
def hexDigit (n : Nat) : UInt8 := if n < 10 then UInt8.ofNat (0x30 + n) else UInt8.ofNat (0x57 + n)

/-- Printable characters that need no escape. -/
def htmlSafe (b : UInt8) : Bool :=
  0x20 ≤ b && b ≠ 0x22 && b ≠ 0x26 && b ≠ 0x3C && b ≠ 0x3E && b ≠ 0x5C

/-- A character of one byte. -/
def escapeASCII (b : UInt8) : List UInt8 :=
  if htmlSafe b then [b]
  else if b = 0x5C || b = 0x22 then [0x5C, b]
  else if b = 0x08 then [0x5C, 0x62]
  else if b = 0x0C then [0x5C, 0x66]
  else if b = 0x0A then [0x5C, 0x6E]
  else if b = 0x0D then [0x5C, 0x72]
  else if b = 0x09 then [0x5C, 0x74]
  else [0x5C, 0x75, 0x30, 0x30, hexDigit (b.toNat / 16), hexDigit (b.toNat % 16)]

/-- The characters of a text; `fuel` is at least the number of bytes. -/
def escapeLoop : Nat → List UInt8 → List UInt8
  | 0, _ => []
  | _, [] => []
  | fuel + 1, b :: bs =>
    if b < 0x80 then escapeASCII b ++ escapeLoop fuel bs
    else
      match multiByte (b :: bs) with
      | none => [0x5C, 0x75, 0x66, 0x66, 0x66, 0x64] ++ escapeLoop fuel bs
      | some size =>
        let char := (b :: bs).take size
        -- the line and paragraph separators
        (if char = [0xE2, 0x80, 0xA8] then [0x5C, 0x75, 0x32, 0x30, 0x32, 0x38]
          else if char = [0xE2, 0x80, 0xA9] then [0x5C, 0x75, 0x32, 0x30, 0x32, 0x39]
          else char) ++ escapeLoop fuel ((b :: bs).drop size)

def marshalString (s : List UInt8) : List UInt8 := 0x22 :: (escapeLoop s.length s ++ [0x22])

/-- A list of texts. -/
def marshalStrings (texts : List (List UInt8)) : List UInt8 :=
  0x5B :: ((texts.map marshalString).intersperse [0x2C]).flatten ++ [0x5D]

example : marshalStrings [[0x6F, 0x6B], [0x22, 0xFF]] =
    [0x5B, 0x22, 0x6F, 0x6B, 0x22, 0x2C, 0x22, 0x5C, 0x22, 0x5C, 0x75, 0x66, 0x66, 0x66, 0x64, 0x22,
      0x5D] := by
  decide

end Go
