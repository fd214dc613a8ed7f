/-
The Teltonika decoders: `internal/codec/teltonika.go`.

A device opens its connection with its IMEI, sends AVL frames (Codec 8 and Codec 8
Extended) and answers commands (Codec 12).  The functions here are the source's:
each walks an offset along its input and checks the bytes it is about to read.
Strings that come off the wire are Go strings, so they are byte strings here.

The two IO layouts differ in the width of ids and counts and in the X group, and
the source has one function for each.  Their loops are the same loops, so there is
one definition of them with the width as a parameter.
-/
import RudraNetra.Codec.Framing
import RudraNetra.Domain.Position
import RudraNetra.Lib.GoSlice

namespace RudraNetra

open Wire Go

/-! ### IO element ids -/

def ioACC : Nat := 1
def ioInput2 : Nat := 2
def ioGSM : Nat := 5
def ioVoltage : Nat := 7
def ioOdometer : Nat := 16
def ioExternalVoltage : Nat := 66
def ioBatteryVoltage : Nat := 67
def ioTemperature : Nat := 72
def ioFuelLevel : Nat := 84
def ioRFID : Nat := 207
def ioIgnition : Nat := 239

/-! ### Errors -/

/-- The errors the decoders return. -/
inductive ParseError where
  | imeiPacketTooShort (n : Nat)
  | imeiIncomplete (expected got : Nat)
  | invalidIMEILength (n : Nat)
  | payloadTooShort (n : Nat)
  | codec16NotSupported (id : UInt8)
  | unsupportedCodec (id : UInt8)
  | packetTooShort (n : Nat)
  | invalidPreamble
  | invalidDataLength (n : Nat)
  | missingRecordCount
  | record (i : Nat) (e : ParseError)
  | recordTooShort (n : Nat)
  | ioElements (e : ParseError)
  | ioTooShort
  | truncatedElement (width : Nat)
  | truncatedXHeader
  | truncatedXValue
  | commandTooShort
  | notCodec12 (id : UInt8)
  | truncatedCommandSize
  | invalidCommandSize (n : Nat)
  deriving DecidableEq

/-- The messages of the errors. -/
def ParseError.text : ParseError → String
  | .imeiPacketTooShort n => "IMEI packet too short: " ++ toString n ++ " bytes"
  | .imeiIncomplete expected got =>
    "IMEI data incomplete: expected " ++ toString expected ++ " bytes, got " ++ toString got
  | .invalidIMEILength n => "invalid IMEI length: " ++ toString n
  | .payloadTooShort n => "frame payload too short: " ++ toString n ++ " bytes"
  | .codec16NotSupported id => "codec 0x" ++ hex02X id ++ " (Codec 16) is not supported yet"
  | .unsupportedCodec id => "unsupported codec: 0x" ++ hex02X id
  | .packetTooShort n => "data packet too short: " ++ toString n ++ " bytes"
  | .invalidPreamble => "invalid frame preamble"
  | .invalidDataLength n => "invalid AVL data length " ++ toString n
  | .missingRecordCount => "missing record count"
  | .record i e => "error parsing record " ++ toString i ++ ": " ++ e.text
  | .recordTooShort n => "AVL record too short: " ++ toString n ++ " bytes"
  | .ioElements e => "error parsing IO elements: " ++ e.text
  | .ioTooShort => "IO data too short"
  | .truncatedElement width => "truncated " ++ toString width ++ "-byte IO element"
  | .truncatedXHeader => "truncated X-group header"
  | .truncatedXValue => "truncated X-group value"
  | .commandTooShort => "command payload too short"
  | .notCodec12 id => "not a Codec 12 payload: 0x" ++ hex02X id
  | .truncatedCommandSize => "truncated command/response size"
  | .invalidCommandSize n => "invalid command/response size " ++ toString n

/-- A call that fails with `e`. -/
abbrev failed {α : Type} (e : ParseError) : Result ParseError α := .error (.error e)

/-! ### The handshake -/

/-- The IMEI of a handshake packet: two bytes of length, then the IMEI. -/
def parseIMEI (data : List UInt8) : Result ParseError (List UInt8) :=
  if data.length < 2 then failed (.imeiPacketTooShort data.length)
  else do
    let imeiLen ← uintAt data 0 2
    if data.length < 2 + imeiLen then failed (.imeiIncomplete imeiLen (data.length - 2))
    else do
      let imei ← slice data 2 (2 + imeiLen)
      if imei.length < 15 then failed (.invalidIMEILength imei.length) else return imei

/-- The answer that accepts an IMEI. -/
def imeiAccept : List UInt8 := [0x01]

/-- The answer that rejects one. -/
def imeiReject : List UInt8 := [0x00]

/-! ### IO elements -/

/-- The position and the raw map the IO decoders write to. -/
structure IOState where
  pos : Position
  raw : RawMap

/-- Maps a known IO element to its field of the position. -/
def applyIOValue (pos : Position) (ioID : Nat) (value : Int) : Position :=
  if ioID = ioACC ∨ ioID = ioIgnition then { pos with ignition := value == 1 }
  else if ioID = ioInput2 then { pos with doorOpen := some (value == 1) }
  else if ioID = ioGSM then { pos with gsmSignal := int16 value }
  else if ioID = ioVoltage ∨ ioID = ioExternalVoltage then
    -- mV to V, unless a voltage is there already
    if pos.voltage = 0 then { pos with voltage := (value : ℚ) / 1000 } else pos
  else if ioID = ioBatteryVoltage then { pos with backupBatteryV := some ((value : ℚ) / 1000) }
  else if ioID = ioTemperature then { pos with temperature := (int16 value : ℚ) / 10 }
  else if ioID = ioOdometer then { pos with odometer := value }
  else if ioID = ioRFID then { pos with rfidTag := toString value }
  else if ioID = ioFuelLevel then { pos with fuelLevelPct := some (value : ℚ) }
  else pos

/-- Stores an element in the raw map and maps it onto the position. -/
def recordIO (st : IOState) (ioID : Nat) (value : Int) : IOState where
  pos := applyIOValue st.pos ioID value
  raw := st.raw.insert (toString ioID) (.num value)

/-- A big-endian unsigned integer of 1, 2, 4 or 8 bytes, as an `int64`. -/
def readUnsigned (data : List UInt8) (width : Nat) : Result ParseError Int :=
  match width with
  | 1 => (uintAt data 0 1).map fun n => int64 n
  | 2 => (uintAt data 0 2).map fun n => int64 n
  | 4 => (uintAt data 0 4).map fun n => int64 n
  | 8 => (uintAt data 0 8).map fun n => int64 n
  | _ => .ok 0

/-- The elements of one width group, `n` of them from `offset` on. -/
def elementLoop (idWidth width : Nat) (data : List UInt8) :
    Nat → Nat → IOState → Result ParseError (IOState × Nat)
  | 0, offset, st => .ok (st, offset)
  | n + 1, offset, st =>
    if offset + idWidth + width > data.length then failed (.truncatedElement width)
    else do
      let ioID ← uintAt data offset idWidth
      let bytes ← slice data (offset + idWidth) (offset + idWidth + width)
      let value ← readUnsigned bytes width
      elementLoop idWidth width data n (offset + idWidth + width) <| recordIO st ioID value

/-- The width groups from `offset` on, and then `after`.  Data that ends where a count
should be ends the IO section: devices omit trailing empty groups. -/
def groupLoop (idWidth : Nat) (data : List UInt8)
    (after : Nat → IOState → Result ParseError (IOState × Nat)) :
    List Nat → Nat → IOState → Result ParseError (IOState × Nat)
  | [], offset, st => after offset st
  | width :: widths, offset, st =>
    if offset + idWidth > data.length then .ok (st, offset)
    else do
      let count ← uintAt data offset idWidth
      let r ← elementLoop idWidth width data count (offset + idWidth) st
      groupLoop idWidth data after widths r.2 r.1

/-- The widths of the fixed-width groups, in wire order. -/
def groupWidths : List Nat := [1, 2, 4, 8]

/-- The IO section of a Codec 8 record: event id and total count of one byte each, then the
width groups with one-byte counts and ids. -/
def parseIOElementsCodec8 (data : List UInt8) (st : IOState) : Result ParseError (IOState × Nat) :=
  if data.length < 2 then failed .ioTooShort
  else groupLoop 1 data (fun offset st => .ok (st, offset)) groupWidths 2 st

/-- Lower-case hexadecimal text. -/
def hexEncode (bytes : List UInt8) : String :=
  String.ofList (bytes.flatMap fun b => [Nat.digitChar (b.toNat / 16), Nat.digitChar (b.toNat % 16)])

/-- The elements of the X group, `n` of them from `offset` on. -/
def xLoop (data : List UInt8) : Nat → Nat → IOState → Result ParseError (IOState × Nat)
  | 0, offset, st => .ok (st, offset)
  | n + 1, offset, st =>
    if offset + 4 > data.length then failed .truncatedXHeader
    else do
      let ioID ← uintAt data offset 2
      let length ← uintAt data (offset + 2) 2
      if offset + 4 + length > data.length then failed .truncatedXValue
      else do
        let value ← slice data (offset + 4) (offset + 4 + length)
        xLoop data n (offset + 4 + length)
          { st with raw := st.raw.insert (toString ioID) (.hex (hexEncode value)) }

/-- The X group, if there is one. -/
def xGroup (data : List UInt8) (offset : Nat) (st : IOState) : Result ParseError (IOState × Nat) :=
  if offset + 2 > data.length then .ok (st, offset)
  else do
    let count ← uintAt data offset 2
    xLoop data count (offset + 2) st

/-- The IO section of a Codec 8 Extended record: an event id of one byte, a total count of
two, the width groups with two-byte counts and ids, and the X group. -/
def parseIOElementsExtended (data : List UInt8) (st : IOState) :
    Result ParseError (IOState × Nat) :=
  if data.length < 3 then failed .ioTooShort
  else groupLoop 2 data (xGroup data) groupWidths 3 st

/-- The IO section in the layout of the codec. -/
def parseIOElements (data : List UInt8) (st : IOState) (extended : Bool) :
    Result ParseError (IOState × Nat) :=
  if extended then parseIOElementsExtended data st else parseIOElementsCodec8 data st

/-! ### Records and frames -/

/-- One AVL record, and how many bytes it took. -/
def parseAVLRecord (data : List UInt8) (deviceID : Int) (extended : Bool) :
    Result ParseError (Position × Nat) :=
  if data.length < 24 then failed (.recordTooShort data.length)
  else do
    let tsMs ← uintAt data 0 8
    -- the byte at 8 is the priority
    let lngRaw ← uintAt data 9 4
    let latRaw ← uintAt data 13 4
    let altitude ← uintAt data 17 2
    let heading ← uintAt data 19 2
    let satellites ← uintAt data 21 1
    let speed ← uintAt data 22 2
    let pos : Position := { Position.zero deviceID with
      time := int64 tsMs
      longitude := (int32 lngRaw : ℚ) / 10 ^ 7
      latitude := (int32 latRaw : ℚ) / 10 ^ 7
      altitude := (altitude : ℚ)
      heading := (heading : ℚ)
      satellites := int16 satellites
      speed := (speed : ℚ) }
    let ioData ← slice data 24 data.length
    let r ← wrap .ioElements (parseIOElements ioData ⟨pos, ∅⟩ extended)
    -- an empty raw map leaves the raw data nil
    let pos := if r.1.raw = ∅ then r.1.pos else { r.1.pos with rawData := some r.1.raw }
    return (pos, 24 + r.2)

/-- The records from index `i` on, `n` of them; `positions` are those decoded so far. -/
def recordLoop (data : List UInt8) (deviceID : Int) (extended : Bool) :
    Nat → Nat → Nat → List Position → Outcome ParseError (List Position)
  | 0, _, _, positions => .returns positions none
  | n + 1, i, offset, positions =>
    match slice (ε := ParseError) data offset data.length with
    | .error _ => .panics
    | .ok rest =>
      match parseAVLRecord rest deviceID extended with
      | .error .panic => .panics
      | .error (.error e) => .returns positions (some (.record i e))
      | .ok (pos, bytesRead) =>
        recordLoop data deviceID extended n (i + 1) (offset + bytesRead) (positions ++ [pos])

/-- The record array: a count of one byte, then so many records. -/
def parseRecords (data : List UInt8) (deviceID : Int) (extended : Bool) :
    Outcome ParseError (List Position) :=
  match data with
  | [] => .returns [] (some .missingRecordCount)
  | recordCount :: _ => recordLoop data deviceID extended recordCount.toNat 0 1 []

/-- The positions of one AVL frame payload. -/
def parseFrame (payload : List UInt8) (deviceID : Int) : Outcome ParseError (List Position) :=
  match payload with
  | codec :: count :: rest =>
    if codec = codec8 then parseRecords (count :: rest) deviceID false
    else if codec = codec8E then parseRecords (count :: rest) deviceID true
    else if codec = codec16 then .returns [] (some (.codec16NotSupported codec))
    else .returns [] (some (.unsupportedCodec codec))
  | _ => .returns [] (some (.payloadTooShort payload.length))

/-- The positions of a whole framed packet. -/
def parseData (data : List UInt8) (deviceID : Int) : Outcome ParseError (List Position) :=
  if data.length < framePreambleSize + frameLengthSize then
    .returns [] (some (.packetTooShort data.length))
  else if ¬ preamble <+: data then .returns [] (some .invalidPreamble)
  else
    let dataLen := dataLenOf data
    if dataLen = 0 ∨ framePreambleSize + frameLengthSize + dataLen > data.length then
      .returns [] (some (.invalidDataLength dataLen))
    else
      match slice (ε := ParseError) data (framePreambleSize + frameLengthSize)
        (framePreambleSize + frameLengthSize + dataLen) with
      | .error _ => .panics
      | .ok payload => parseFrame payload deviceID

/-- The answer to a frame: how many records were accepted, in four bytes. -/
def acknowledge (count : Nat) : List UInt8 := beBytes 4 count

/-! ### Commands -/

/-- A command as a Codec 12 frame: preamble, data length, codec id, quantity 1, command size,
command, quantity 2 and checksum. -/
def buildCommandFrame (command : List UInt8) : List UInt8 :=
  let dataLen := 1 + 1 + 4 + command.length + 1
  let data := [codec12, 1] ++ (beBytes 4 command.length ++ (command ++ [1]))
  let crc := crc16 data
  -- the checksum is written little-endian into the first two bytes of its field
  beBytes 4 0 ++ (beBytes 4 dataLen ++ (data ++ ((beBytes 2 crc.toNat).reverse ++ [0, 0])))

/-- The entries of a Codec 12 payload, `n` of them from `offset` on. -/
def commandLoop (payload : List UInt8) :
    Nat → Nat → List (List UInt8) → Outcome ParseError (List (List UInt8))
  | 0, _, out => .returns out none
  | n + 1, offset, out =>
    if offset + 4 > payload.length then .returns out (some .truncatedCommandSize)
    else
      match uintAt (ε := ParseError) payload offset 4 with
      | .error _ => .panics
      | .ok size =>
        if size = 0 ∨ offset + 4 + size > payload.length then
          .returns out (some (.invalidCommandSize size))
        else
          match slice (ε := ParseError) payload (offset + 4) (offset + 4 + size) with
          | .error _ => .panics
          | .ok text => commandLoop payload n (offset + 4 + size) (out ++ [text])

/-- The command or response texts of a Codec 12 payload. -/
def parseCommandPayload (payload : List UInt8) : Outcome ParseError (List (List UInt8)) :=
  match payload with
  | codec :: quantity :: _ =>
    if codec ≠ codec12 then .returns [] (some (.notCodec12 codec))
    else commandLoop payload quantity.toNat 2 []
  | _ => .returns [] (some .commandTooShort)

end RudraNetra
