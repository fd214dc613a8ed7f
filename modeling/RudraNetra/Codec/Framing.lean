/-
The stream framer: `internal/codec/framing.go`.

A Teltonika frame on the TCP stream is

    [00 00 00 00] [length, 4 bytes] [payload] [checksum field, 4 bytes]

and `StreamFramer` collects what the socket delivers until one is complete.  The
loop of `Next` is one decision repeated, `look`: find the first four zero bytes,
read the length behind them, wait for the whole frame, and take it if its first
payload byte is a codec id.  A length out of range or an unknown codec id drops
one byte and looks again.

The loop itself, the loop around it that empties the framer after every read, and
the reason both end are the scanner's; what is modelled here is the decision.
-/
import RudraNetra.Lib.Scanner
import RudraNetra.Lib.Wire

namespace RudraNetra

open Wire

/-! ### Sizes and codec ids -/

def framePreambleSize : Nat := 4
def frameLengthSize : Nat := 4
def frameCRCSize : Nat := 4

/-- The safety cap on a frame's data, 1 MiB. -/
def frameMaxDataLen : Nat := 1 <<< 20

def codec8 : UInt8 := 0x08
def codec8E : UInt8 := 0x8E
def codec12 : UInt8 := 0x0C
def codec16 : UInt8 := 0x10

/-- Whether the codec id is handled or recognised. -/
def knownCodec (id : UInt8) : Bool :=
  id == codec8 || id == codec8E || id == codec12 || id == codec16

/-! ### Frames and their checksum -/

/-- One complete frame. -/
structure Frame where
  /-- Codec id, record counts and records. -/
  payload : List UInt8
  /-- The checksum field exactly as received. -/
  crc : List UInt8
  deriving DecidableEq

/-- One shift of the checksum register. -/
def crcShift (crc : UInt16) : UInt16 :=
  if crc &&& 1 ≠ 0 then (crc >>> 1) ^^^ 0xA001 else crc >>> 1

/-- One byte of the checksum: eight shifts. -/
def crcByte (crc : UInt16) (b : UInt8) : UInt16 :=
  Nat.iterate crcShift 8 (crc ^^^ b.toUInt16)

/-- CRC-16/ARC. -/
def crc16 (data : List UInt8) : UInt16 := data.foldl crcByte 0

/-- Whether the checksum field matches the payload, in either accepted byte order. -/
def Frame.crcValid (f : Frame) : Bool :=
  if f.crc.length < 4 || f.payload.length == 0 then false
  else
    let want := (crc16 f.payload).toNat
    want == beNat (f.crc.take 2).reverse || want == beNat ((f.crc.drop 2).take 2)

/-! ### Looking at the buffer -/

/-- The four zero bytes a frame starts with. -/
def preamble : List UInt8 := List.replicate framePreambleSize 0

/-- The first offset at which the buffer holds four zero bytes. -/
def findPreamble : List UInt8 → Option Nat
  | [] => none
  | b :: bs =>
    if preamble.isPrefixOf (b :: bs) then some 0 else (findPreamble bs).map (· + 1)

/-- Why a byte was dropped. -/
inductive FrameError where
  | invalidLength (dataLen : Nat)
  | unknownCodec (id : UInt8)
  deriving DecidableEq

/-- Two upper-case hexadecimal digits. -/
def hex02X (b : UInt8) : String :=
  String.ofList [(Nat.digitChar (b.toNat / 16)).toUpper, (Nat.digitChar (b.toNat % 16)).toUpper]

/-- The message of the error. -/
def FrameError.text : FrameError → String
  | .invalidLength dataLen => "invalid teltonika frame length " ++ toString dataLen
  | .unknownCodec id => "unknown codec id 0x" ++ hex02X id ++ ", resynchronising"

/-- Without a preamble only the last three bytes are kept: one may be split across reads. -/
def keepTail (buf : List UInt8) : List UInt8 :=
  if buf.length > framePreambleSize - 1 then buf.drop (buf.length - (framePreambleSize - 1)) else buf

/-- The length a frame at the front of the buffer announces. -/
def dataLenOf (buf : List UInt8) : Nat := beNat ((buf.drop framePreambleSize).take frameLengthSize)

/-- How many bytes that frame has in all. -/
def totalOf (buf : List UInt8) : Nat :=
  framePreambleSize + frameLengthSize + dataLenOf buf + frameCRCSize

/-- The payload and checksum field of that frame. -/
def frameOf (buf : List UInt8) : Frame :=
  ⟨(buf.drop (framePreambleSize + frameLengthSize)).take (dataLenOf buf),
    (buf.drop (framePreambleSize + frameLengthSize + dataLenOf buf)).take frameCRCSize⟩

/-- What a buffer that starts with a preamble is good for. -/
def aligned (buf : List UInt8) : Scan.Step UInt8 Frame FrameError :=
  if buf.length < framePreambleSize + frameLengthSize then .wait buf
  else if dataLenOf buf = 0 ∨ dataLenOf buf > frameMaxDataLen then
    .skip (.invalidLength (dataLenOf buf)) (buf.drop 1)
  else if buf.length < totalOf buf then .wait buf
  -- the payload has `dataLen > 0` bytes, so `payload[0]` is there
  else if !knownCodec ((frameOf buf).payload.headD 0) then
    -- not a frame boundary: drop one byte and resynchronise
    .skip (.unknownCodec ((frameOf buf).payload.headD 0)) (buf.drop 1)
  else .emit (frameOf buf) (buf.drop (totalOf buf))

/-- One iteration of the loop in `Next`. -/
def look (buf : List UInt8) : Scan.Step UInt8 Frame FrameError :=
  match findPreamble buf with
  | none => .wait (keepTail buf)
  | some idx => aligned (buf.drop idx)

/-! ### Where the preamble is -/

theorem findPreamble_here {buf : List UInt8} (h : preamble <+: buf) :
    findPreamble buf = some 0 := by
  cases buf with
  | nil => simp [preamble, framePreambleSize] at h
  | cons b bs => rw [findPreamble, if_pos (List.isPrefixOf_iff_prefix.mpr h)]

theorem findPreamble_later {b : UInt8} {bs : List UInt8}
    (h : ¬ preamble <+: b :: bs) :
    findPreamble (b :: bs) = (findPreamble bs).map (· + 1) := by
  rw [findPreamble, if_neg (fun hc => h (List.isPrefixOf_iff_prefix.mp hc))]

theorem preamble_length : preamble.length = 4 := rfl

/-- Where a preamble is found there is one, and it fits. -/
theorem findPreamble_spec : ∀ {buf : List UInt8} {idx : Nat}, findPreamble buf = some idx →
    preamble <+: buf.drop idx ∧ idx + 4 ≤ buf.length := by
  intro buf
  induction buf with
  | nil => intro idx h; simp [findPreamble] at h
  | cons b bs ih =>
      intro idx h
      by_cases hp : preamble <+: b :: bs
      · rw [findPreamble_here hp] at h
        cases h
        exact ⟨hp, by simpa [preamble_length] using hp.length_le⟩
      · rw [findPreamble_later hp] at h
        obtain ⟨k, hk, rfl⟩ := Option.map_eq_some_iff.mp h
        obtain ⟨hpre, hle⟩ := ih hk
        exact ⟨by simpa using hpre, by simp only [List.length_cons]; omega⟩

/-- Bytes that arrive later do not move the first preamble. -/
theorem findPreamble_append {buf : List UInt8} {idx : Nat} (more : List UInt8)
    (h : findPreamble buf = some idx) : findPreamble (buf ++ more) = some idx := by
  induction buf generalizing idx with
  | nil => simp [findPreamble] at h
  | cons b bs ih =>
      by_cases hp : preamble <+: b :: bs
      · rw [findPreamble_here hp] at h
        rw [findPreamble_here (hp.trans (List.prefix_append _ _)), h]
      · have hlen := (findPreamble_spec h).2
        rw [findPreamble_later hp] at h
        obtain ⟨k, hk, rfl⟩ := Option.map_eq_some_iff.mp h
        -- the first four bytes are all in `b :: bs`, so they are still not a preamble
        have hp' : ¬ preamble <+: b :: (bs ++ more) := by
          intro hc
          refine hp (List.prefix_of_prefix_length_le hc (List.prefix_append (b :: bs) more) ?_)
          rw [preamble_length]
          omega
        rw [List.cons_append, findPreamble_later hp', ih hk]
        rfl

/-! ### The framer as a scanner -/

/-- Eight bytes at least, and the length they announce is in range. -/
structure GoodLength (buf : List UInt8) : Prop where
  header : 8 ≤ buf.length
  pos : 0 < dataLenOf buf
  le : dataLenOf buf ≤ frameMaxDataLen

theorem aligned_short {buf : List UInt8} (h : buf.length < 8) : aligned buf = .wait buf :=
  if_pos h

theorem aligned_badLength {buf : List UInt8} (h : 8 ≤ buf.length)
    (hbad : dataLenOf buf = 0 ∨ dataLenOf buf > frameMaxDataLen) :
    aligned buf = .skip (.invalidLength (dataLenOf buf)) (buf.drop 1) := by
  have hlen : ¬ buf.length < framePreambleSize + frameLengthSize := Nat.not_lt.mpr h
  rw [aligned, if_neg hlen, if_pos hbad]

theorem aligned_good {buf : List UInt8} (h : GoodLength buf) :
    aligned buf = if buf.length < totalOf buf then .wait buf
      else if !knownCodec ((frameOf buf).payload.headD 0) then
        .skip (.unknownCodec ((frameOf buf).payload.headD 0)) (buf.drop 1)
      else .emit (frameOf buf) (buf.drop (totalOf buf)) := by
  have hgood : ¬ (dataLenOf buf = 0 ∨ dataLenOf buf > frameMaxDataLen) := by
    have := h.pos
    have := h.le
    omega
  have hlen : ¬ buf.length < framePreambleSize + frameLengthSize := Nat.not_lt.mpr h.header
  rw [aligned, if_neg hlen, if_neg hgood]

theorem aligned_incomplete {buf : List UInt8} (h : GoodLength buf) (hlt : buf.length < totalOf buf) :
    aligned buf = .wait buf := by
  rw [aligned_good h, if_pos hlt]

theorem aligned_unknown {buf : List UInt8} (h : GoodLength buf) (hle : totalOf buf ≤ buf.length)
    (hk : knownCodec ((frameOf buf).payload.headD 0) = false) :
    aligned buf = .skip (.unknownCodec ((frameOf buf).payload.headD 0)) (buf.drop 1) := by
  rw [aligned_good h, if_neg (Nat.not_lt.mpr hle), hk]
  rfl

theorem aligned_frame {buf : List UInt8} (h : GoodLength buf) (hle : totalOf buf ≤ buf.length)
    (hk : knownCodec ((frameOf buf).payload.headD 0) = true) :
    aligned buf = .emit (frameOf buf) (buf.drop (totalOf buf)) := by
  rw [aligned_good h, if_neg (Nat.not_lt.mpr hle), hk]
  rfl

/-- Everything a look at an aligned buffer can decide, with what it saw. -/
theorem aligned_cases (buf : List UInt8) :
    aligned buf = .wait buf ∨
      (8 ≤ buf.length ∧ (dataLenOf buf = 0 ∨ dataLenOf buf > frameMaxDataLen) ∧
        aligned buf = .skip (.invalidLength (dataLenOf buf)) (buf.drop 1)) ∨
      (GoodLength buf ∧ totalOf buf ≤ buf.length ∧
        knownCodec ((frameOf buf).payload.headD 0) = false ∧
        aligned buf = .skip (.unknownCodec ((frameOf buf).payload.headD 0)) (buf.drop 1)) ∨
      (GoodLength buf ∧ totalOf buf ≤ buf.length ∧
        knownCodec ((frameOf buf).payload.headD 0) = true ∧
        aligned buf = .emit (frameOf buf) (buf.drop (totalOf buf))) := by
  by_cases hlen : buf.length < 8
  · exact Or.inl (aligned_short hlen)
  by_cases hbad : dataLenOf buf = 0 ∨ dataLenOf buf > frameMaxDataLen
  · exact Or.inr (Or.inl ⟨by omega, hbad, aligned_badLength (by omega) hbad⟩)
  have hgood : GoodLength buf := ⟨by omega, by omega, by omega⟩
  by_cases hlt : buf.length < totalOf buf
  · exact Or.inl (aligned_incomplete hgood hlt)
  have hle : totalOf buf ≤ buf.length := by omega
  rcases hk : knownCodec ((frameOf buf).payload.headD 0) with _ | _
  · exact Or.inr (Or.inr (Or.inl ⟨hgood, hle, rfl, aligned_unknown hgood hle hk⟩))
  · exact Or.inr (Or.inr (Or.inr ⟨hgood, hle, rfl, aligned_frame hgood hle hk⟩))

/-- A wait of an aligned buffer keeps all of it. -/
theorem aligned_eq_wait {buf rest : List UInt8} (h : aligned buf = .wait rest) : rest = buf := by
  rcases aligned_cases buf with hw | ⟨-, -, hw⟩ | ⟨-, -, -, hw⟩ | ⟨-, -, -, hw⟩ <;>
    rw [hw] at h <;> simp only [Scan.Step.wait.injEq, reduceCtorEq] at h
  exact h.symm

/-- A drop takes off one byte, for a length out of range or an unknown codec id. -/
theorem aligned_eq_skip {buf rest : List UInt8} {err : FrameError}
    (h : aligned buf = .skip err rest) :
    rest = buf.drop 1 ∧ 8 ≤ buf.length ∧
      ((dataLenOf buf = 0 ∨ dataLenOf buf > frameMaxDataLen) ∧
          err = .invalidLength (dataLenOf buf) ∨
        GoodLength buf ∧ totalOf buf ≤ buf.length ∧
          knownCodec ((frameOf buf).payload.headD 0) = false ∧
          err = .unknownCodec ((frameOf buf).payload.headD 0)) := by
  rcases aligned_cases buf with hw | ⟨hlen, hbad, hw⟩ | ⟨hg, hle, hk, hw⟩ | ⟨-, -, -, hw⟩ <;>
    rw [hw] at h <;> simp only [Scan.Step.skip.injEq, reduceCtorEq] at h
  · exact ⟨h.2.symm, hlen, Or.inl ⟨hbad, h.1.symm⟩⟩
  · exact ⟨h.2.symm, hg.header, Or.inr ⟨hg, hle, hk, h.1.symm⟩⟩

/-- A frame is taken off with its length in range, all its bytes there and its codec known. -/
theorem aligned_eq_emit {buf rest : List UInt8} {frame : Frame}
    (h : aligned buf = .emit frame rest) :
    frame = frameOf buf ∧ rest = buf.drop (totalOf buf) ∧ GoodLength buf ∧
      totalOf buf ≤ buf.length ∧ knownCodec ((frameOf buf).payload.headD 0) = true := by
  rcases aligned_cases buf with hw | ⟨-, -, hw⟩ | ⟨-, -, -, hw⟩ | ⟨hg, hle, hk, hw⟩ <;>
    rw [hw] at h <;> simp only [Scan.Step.emit.injEq, reduceCtorEq] at h
  exact ⟨h.1.symm, h.2.symm, hg, hle, hk⟩

/-- A look that goes on decided so at a preamble it found. -/
theorem look_cases (buf : List UInt8) :
    (findPreamble buf = none ∧ look buf = .wait (keepTail buf)) ∨
      ∃ idx, findPreamble buf = some idx ∧ look buf = aligned (buf.drop idx) := by
  unfold look
  rcases hfind : findPreamble buf with _ | idx
  · exact Or.inl ⟨rfl, rfl⟩
  · exact Or.inr ⟨idx, rfl, rfl⟩

/-- The loop of `Next` as a scanner: every iteration that goes on shortens the buffer. -/
def framer : Scan.Scanner UInt8 Frame FrameError where
  step := look
  skip_lt := by
    intro buf err rest h
    rcases look_cases buf with ⟨-, hl⟩ | ⟨idx, -, hl⟩ <;> rw [hl] at h
    · simp at h
    · obtain ⟨rfl, hlen, -⟩ := aligned_eq_skip h
      simp only [List.length_drop] at hlen ⊢
      omega
  emit_lt := by
    intro buf frame rest h
    rcases look_cases buf with ⟨-, hl⟩ | ⟨idx, -, hl⟩ <;> rw [hl] at h
    · simp at h
    · obtain ⟨-, rfl, hg, -, -⟩ := aligned_eq_emit h
      have hlen := hg.header
      simp only [List.length_drop, totalOf, framePreambleSize] at hlen ⊢
      omega

/-- The framer's state: the bytes received and not yet taken. -/
structure StreamFramer where
  buf : List UInt8

namespace StreamFramer

def new : StreamFramer := ⟨[]⟩

/-- Adds bytes received from the socket. -/
def append (f : StreamFramer) (data : List UInt8) : StreamFramer := ⟨f.buf ++ data⟩

/-- How many bytes wait for a complete frame. -/
def buffered (f : StreamFramer) : Nat := f.buf.length

/-- Drops all buffered bytes. -/
def reset (_ : StreamFramer) : StreamFramer := ⟨[]⟩

/-- The next complete frame, if there is one, the last resynchronisation error, and the
buffer left behind. -/
def next (f : StreamFramer) : Scan.Call UInt8 Frame FrameError := framer.next f.buf

/-- Calling `Next` until there is no frame. -/
def drain (f : StreamFramer) : Scan.Drained UInt8 Frame FrameError := framer.drain f.buf

/-- The read loop of a connection: each chunk is appended and the framer emptied. -/
def read (f : StreamFramer) : List (List UInt8) → Scan.Drained UInt8 Frame FrameError
  | [] => ⟨[], [], f.buf⟩
  | chunk :: rest =>
    let d := (f.append chunk).drain
    d.then (read ⟨d.buf⟩ rest)

theorem read_eq_feed (chunks : List (List UInt8)) :
    ∀ f : StreamFramer, f.read chunks = framer.feed f.buf chunks := by
  induction chunks with
  | nil => intro f; rfl
  | cons chunk rest ih =>
      intro f
      simp only [read, Scan.Scanner.feed, ih]
      rfl

end StreamFramer

end RudraNetra
