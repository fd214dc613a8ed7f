/-
The device simulator: `scripts/simulate_device.js`.

It is the repository's own tracker: it opens a connection with an IMEI, reports a vehicle
that moves at random in AVL frames, and answers the commands it is sent.  What it draws at
random and what time it is come from the environment.

Numbers are binary64.  Those which stay whole are integers here, and the results of other
operations are rounded.  A write into a buffer throws if its field does not hold the value,
so what is built is an `Option`.
-/
import RudraNetra.Codec.Teltonika
import RudraNetra.Lib.Binary64
import RudraNetra.Lib.NodeText

namespace RudraNetra.Simulator

open Wire Binary64

/-! ### Options -/

/-- The options, as they are after the defaults and the least values. -/
structure Options where
  imei : List UInt8
  extended : Bool
  intervalMs : Nat
  burst : Nat
  fragment : Bool
  useCrc : Bool
  listenCommands : Bool
  /-- How many records are sent, if there is an end. -/
  positions : Option Nat
  voltageMv : Int
  parkEvery : Int
  parkRecords : Int
  parkIgnition : Bool
  intervalMs_ge : 50 ≤ intervalMs
  burst_ge : 1 ≤ burst
  parkRecords_ge : 1 ≤ parkRecords

/-- What the runtime answers. -/
structure Env where
  /-- `Math.random()`, by the number of calls before. -/
  random : Nat → ℚ
  random_nonneg : ∀ n, 0 ≤ random n
  random_le : ∀ n, random n ≤ 1 - 1 / 2 ^ 53
  cos : ℚ → ℚ
  sin : ℚ → ℚ

/-- `Math.floor(Math.random() * n)` -/
def Env.below (env : Env) (n draws : Nat) : Int := ⌊nearest (env.random draws * n)⌋

/-- `Math.round(x)` -/
def mathRound (x : ℚ) : Int := ⌊x + 1 / 2⌋

/-- `Math.PI` -/
def mathPI : ℚ := 884279719003555 / 2 ^ 48

/-! ### The vehicle -/

structure Sim where
  lat : ℚ
  lng : ℚ
  heading : Int
  speed : Int
  odometer : Int
  records : Nat
  fuel : ℚ
  tempC10 : Int
  parkTicks : Int
  xCounter : Nat
  /-- How often `Math.random` was called. -/
  draws : Nat

def Sim.new : Sim where
  lat := nearest 24.89521
  lng := nearest 55.14203
  heading := 238
  speed := 65
  odometer := 1425800
  records := 0
  fuel := 78
  tempC10 := -184
  parkTicks := 0
  xCounter := 0x01020304
  draws := 0

/-- The values of a record. -/
structure Rec where
  timestamp : Int
  priority : Int
  lat : ℚ
  lng : ℚ
  altitude : Int
  angle : Int
  satellites : Int
  speed : Int
  ignition : Int
  door : Int
  vehicleMv : Int
  externalMv : Int
  batteryMv : Int
  tempC10 : Int
  fuel : Int
  odometer : Int
  xtra : Nat

variable (opts : Options) (env : Env)

def Sim.drawn (sim : Sim) : Sim := { sim with draws := sim.draws + 1 }

/-- A record's worth of driving. -/
def Sim.drive (sim : Sim) : Sim :=
  let sim := { sim.drawn with speed := 55 + env.below 31 sim.draws }
  let sim := { sim.drawn with
    heading := Int.tmod (sim.heading + env.below 7 sim.draws - 3 + 360) 360 }
  let meters := nearest (sim.speed * nearest (opts.intervalMs / 3600))
  let rad := nearest (nearest (sim.heading * mathPI) / 180)
  let lat := nearest (sim.lat + nearest (nearest (meters * env.cos rad) / 111320))
  let width := nearest (111320 * env.cos (nearest (nearest (lat * mathPI) / 180)))
  { sim with
    lat := lat
    lng := nearest (sim.lng + nearest (nearest (meters * env.sin rad) / width))
    odometer := sim.odometer + mathRound meters }

/-- The vehicle for the next record, and whether it is parked. -/
def Sim.advance (sim : Sim) : Sim × Bool :=
  if sim.parkTicks > 0 then ({ sim with parkTicks := sim.parkTicks - 1, speed := 0 }, true)
  else if opts.parkEvery > 0 ∧ (sim.records : Int) % opts.parkEvery = 0 then
    ({ sim with parkTicks := opts.parkRecords - 1, speed := 0 }, true)
  else if opts.parkEvery = 0 then
    if env.random sim.draws < nearest 0.02 then
      ({ sim.drawn.drawn with parkTicks := 3 + env.below 6 sim.drawn.draws, speed := 0 }, true)
    else (sim.drawn.drive opts env, false)
  else (sim.drive opts env, false)

/-- A voltage, if none is given, and the vehicle after that. -/
def Sim.millivolts (least range : Nat) (sim : Sim) : Int × Sim :=
  if opts.voltageMv > 0 then (opts.voltageMv, sim)
  else (least + env.below range sim.draws, sim.drawn)

/-- Advances the vehicle by one record, and gives its values. -/
def nextRecord (timestamp : Int) (sim : Sim) : Rec × Sim :=
  let (sim, parked) := Sim.advance opts env { sim with records := sim.records + 1 }
  let fuel := if parked then sim.fuel else max 3 (min 100 (nearest (sim.fuel - nearest 0.05)))
  let sim := { sim.drawn with
    fuel := fuel
    tempC10 := max (-300) (min 80 (sim.tempC10 + env.below 3 sim.draws - 1))
    xCounter := (sim.xCounter + 1) % 2 ^ 32 }
  let altitude := 12 + env.below 10 sim.draws
  let sim := sim.drawn
  let satellites := 10 + env.below 7 sim.draws
  let sim := sim.drawn
  let (vehicleMv, sim) := sim.millivolts opts env 24000 801
  let (externalMv, sim) := sim.millivolts opts env 23900 901
  let batteryMv := 3800 + env.below 351 sim.draws
  let sim := sim.drawn
  ({ timestamp := timestamp
     priority := 0
     lat := sim.lat
     lng := sim.lng
     altitude := altitude
     angle := sim.heading
     satellites := satellites
     speed := sim.speed
     ignition := if parked then (if opts.parkIgnition then 1 else 0) else 1
     door := ((sim.records - 1) / 10 % 2 : Nat)
     vehicleMv := vehicleMv
     externalMv := externalMv
     batteryMv := batteryMv
     tempC10 := sim.tempC10
     fuel := mathRound sim.fuel
     odometer := sim.odometer
     xtra := sim.xCounter }, sim)

/-- The records of one frame, a second apart. -/
def burstRecords (base : Int) : Nat → Nat → Sim → List Rec × Sim
  | 0, _, sim => ([], sim)
  | n + 1, i, sim =>
    let (rec, sim) := nextRecord opts env (base + i * 1000) sim
    let (recs, sim) := burstRecords base n (i + 1) sim
    (rec :: recs, sim)

/-! ### Frames -/

/-- `writeUInt8`, `writeUInt16BE`, `writeUInt32BE` and `writeBigUInt64BE` -/
def writeUInt (width : Nat) (value : Int) : Option (List UInt8) :=
  if 0 ≤ value ∧ value < 256 ^ width then some (beBytes width value.toNat) else none

/-- `writeInt16BE`, `writeInt32BE` and `writeBigInt64BE` -/
def writeInt (width : Nat) (value : Int) : Option (List UInt8) :=
  if -(256 ^ width / 2) ≤ value ∧ value < 256 ^ width / 2 then
    some (beBytes width (value % 256 ^ width).toNat)
  else none

/-- An element of an IO group. -/
structure IOElem where
  id : Int
  size : Nat
  value : Int
  signed : Bool := false

def writeIOValue (el : IOElem) : Option (List UInt8) :=
  match el.size with
  | 1 => writeUInt 1 (el.value % 256)
  | 2 => if el.signed then writeInt 2 el.value else writeUInt 2 (el.value % 65536)
  | 4 => writeUInt 4 (el.value % 2 ^ 32)
  | 8 => writeUInt 8 el.value
  -- nothing is written into the bytes that were allocated
  | size => some (List.replicate size 0)

/-- The elements of a group, with ids of so many bytes. -/
def ioElements (idWidth : Nat) (elems : List IOElem) : Option (List UInt8) :=
  (elems.mapM fun (el : IOElem) => do
    return (← writeUInt idWidth el.id) ++ (← writeIOValue el)).map List.flatten

/-- A Codec 8 group; a count of 256 and more is cut to its low byte. -/
def ioGroup8 (elems : List IOElem) : Option (List UInt8) := do
  return UInt8.ofNat elems.length :: (← ioElements 1 elems)

/-- A Codec 8 Extended group. -/
def ioGroup8e (elems : List IOElem) : Option (List UInt8) := do
  return (← writeUInt 2 elems.length) ++ (← ioElements 2 elems)

/-- The X group, of ids and byte strings. -/
def ioGroupX8e (elems : List (Int × List UInt8)) : Option (List UInt8) := do
  let parts ← elems.mapM fun (id, data) => do
    return (← writeUInt 2 id) ++ (← writeUInt 2 data.length) ++ data
  return (← writeUInt 2 elems.length) ++ parts.flatten

/-- `Math.round(rec.lng * 1e7)` -/
def Rec.longitude (rec : Rec) : Int := mathRound (nearest (rec.lng * 10 ^ 7))

/-- `Math.round(rec.lat * 1e7)` -/
def Rec.latitude (rec : Rec) : Int := mathRound (nearest (rec.lat * 10 ^ 7))

def buildGpsPart (rec : Rec) : Option (List UInt8) := do
  return (← writeInt 8 rec.timestamp) ++ ((← writeUInt 1 rec.priority) ++
    ((← writeInt 4 rec.longitude) ++ ((← writeInt 4 rec.latitude) ++
      ((← writeUInt 2 (rec.altitude % 65536)) ++ ((← writeUInt 2 (rec.angle % 65536)) ++
        ((← writeUInt 1 rec.satellites) ++ (← writeUInt 2 (rec.speed % 65536))))))))

def oneByte (rec : Rec) : List IOElem := [⟨1, 1, rec.ignition, false⟩, ⟨2, 1, rec.door, false⟩]

def twoByte (rec : Rec) : List IOElem :=
  [⟨7, 2, rec.vehicleMv, false⟩, ⟨66, 2, rec.externalMv, false⟩, ⟨67, 2, rec.batteryMv, false⟩,
    ⟨72, 2, rec.tempC10, true⟩, ⟨84, 2, rec.fuel, false⟩]

def fourByte (rec : Rec) : List IOElem := [⟨16, 4, rec.odometer, false⟩]

def eightByte : List IOElem := []

def groups8 (rec : Rec) : Option (List UInt8) := do
  return (← ioGroup8 (oneByte rec)) ++ ((← ioGroup8 (twoByte rec)) ++
    ((← ioGroup8 (fourByte rec)) ++ (← ioGroup8 eightByte)))

def groups8e (rec : Rec) : Option (List UInt8) := do
  let xCounter ← writeUInt 4 rec.xtra
  return (← ioGroup8e (oneByte rec)) ++ ((← ioGroup8e (twoByte rec)) ++
    ((← ioGroup8e (fourByte rec)) ++ ((← ioGroup8e eightByte) ++ (← ioGroupX8e [(200, xCounter)]))))

/-- How many elements there are in the groups of fixed widths. -/
def fixedTotal (rec : Rec) : Nat :=
  (oneByte rec).length + (twoByte rec).length + (fourByte rec).length + eightByte.length

/-- One AVL record. -/
def buildRecord (rec : Rec) : Option (List UInt8) := do
  let gps ← buildGpsPart rec
  if opts.extended then
    let groups ← groups8e rec
    return gps ++ ((← writeUInt 1 0) ++ ((← writeUInt 2 (fixedTotal rec + 1)) ++ groups))
  else
    let groups ← groups8 rec
    return gps ++ ((← writeUInt 1 0) ++ ((← writeUInt 1 (fixedTotal rec)) ++ groups))

/-- A data field in its frame; the checksum is zero if it is switched off. -/
def buildFrame (data : List UInt8) : Option (List UInt8) := do
  let crc := if opts.useCrc then (beBytes 2 (crc16 data).toNat).reverse ++ [0, 0] else [0, 0, 0, 0]
  return (← writeUInt 4 0) ++ ((← writeUInt 4 data.length) ++ (data ++ crc))

/-- An AVL frame; a count of 256 and more is cut to its low byte. -/
def buildAvlFrame (records : List Rec) : Option (List UInt8) := do
  let codecId : UInt8 := if opts.extended then 0x8E else 0x08
  let encoded ← records.mapM (buildRecord opts)
  let count := UInt8.ofNat encoded.length
  buildFrame opts (codecId :: count :: (encoded.flatten ++ [count]))

def buildCodec12Response (text : String) : Option (List UInt8) := do
  let payload := Go.bytesOf text
  buildFrame opts ([0x0C, 0x01] ++ ((← writeUInt 4 payload.length) ++ (payload ++ [0x01])))

/-! ### The connection -/

/-- What the device takes off its buffer. -/
inductive Incoming where
  | acked (count : Nat)
  | command (frame : List UInt8)
  deriving DecidableEq

/-- Whether the buffer is taken for the beginning of a command frame. -/
def startsCommand (rxBuf : List UInt8) : Bool :=
  9 ≤ rxBuf.length && beNat (rxBuf.take 4) == 0 && rxBuf[8]? == some 0x0C

/-- One iteration of the loop in `pump`. -/
def pumpStep (rxBuf : List UInt8) : Scan.Step UInt8 Incoming Empty :=
  if opts.listenCommands && startsCommand rxBuf then
    if rxBuf.length < 13 then .wait rxBuf
    else
      let total := 8 + beNat ((rxBuf.drop 4).take 4) + 4
      if rxBuf.length < total then .wait rxBuf
      else .emit (.command (rxBuf.take total)) (rxBuf.drop total)
  else if 4 ≤ rxBuf.length then .emit (.acked (beNat (rxBuf.take 4))) (rxBuf.drop 4)
  else .wait rxBuf

/-- The loop in `pump`. -/
def pump : Scan.Scanner UInt8 Incoming Empty where
  step := pumpStep opts
  skip_lt := by
    intro buf err
    exact err.elim
  emit_lt := by
    intro buf out rest h
    unfold pumpStep at h
    dsimp only at h
    split_ifs at h with hlisten h13 htotal h4
    · obtain ⟨-, rfl⟩ := Scan.Step.emit.inj h
      rw [List.length_drop]
      omega
    · obtain ⟨-, rfl⟩ := Scan.Step.emit.inj h
      rw [List.length_drop]
      omega

/-- Whether a text begins with `get`, in letters of either case. -/
def asksFor (text : String) : Bool :=
  match text.toList with
  | g :: e :: t :: _ => (g == 'g' || g == 'G') && (e == 'e' || e == 'E') && (t == 't' || t == 'T')
  | _ => false

/-- What the device answers to a command. -/
def answer (command : String) : String :=
  if asksFor (Node.trim command) then "Yes:1" else "OK:" ++ command

/-- The command in a frame. -/
def commandOf (frame : List UInt8) : Option String :=
  let dataLen := beNat ((frame.drop 4).take 4)
  let data := (frame.drop 8).take dataLen
  -- `readUInt32BE` throws if there are no four bytes
  if data.length < 6 then none
  else
    let commandSize := beNat ((data.drop 2).take 4)
    some (Node.toText ((data.drop 6).take commandSize))

/-- The packet that answers a command frame. -/
def handleCommandFrame (frame : List UInt8) : Option (List UInt8) := do
  buildCodec12Response opts (answer (← commandOf frame))

inductive State where
  | waitingHandshake
  | streaming
  /-- The IMEI was rejected. -/
  | exited
  deriving DecidableEq

/-- The simulator's state. -/
structure Device where
  sim : Sim
  state : State
  rxBuf : List UInt8
  /-- Whether the timer that sends frames is running. -/
  timer : Bool
  emitted : Nat

def Device.new : Device := ⟨.new, .waitingHandshake, [], false, 0⟩

/-- The handshake packet. -/
def handshake : Option (List UInt8) := do
  return (← writeUInt 2 opts.imei.length) ++ opts.imei

/-- Builds the next AVL frame; `base` is the time. -/
def sendFrame (base : Int) (d : Device) : Option (List UInt8 × Device) := do
  let (records, sim) := burstRecords opts env base opts.burst 0 d.sim
  let packet ← buildAvlFrame opts records
  let emitted := d.emitted + records.length
  let ended := opts.positions.any (· ≤ emitted)
  return (packet, { d with sim := sim, emitted := emitted, timer := d.timer && !ended })

/-- The frames that the timer sends, one at each of the times. -/
def sendFrames : List Int → Device → Option (List (List UInt8) × Device)
  | [], d => some ([], d)
  | base :: rest, d => do
    let (packet, d) ← sendFrame opts env base d
    let (packets, d) ← sendFrames rest d
    return (packet :: packets, d)

def Incoming.frame? : Incoming → Option (List UInt8)
  | .acked _ => none
  | .command frame => some frame

/-- The packets that answer what was taken off the buffer. -/
def respond (incoming : List Incoming) : Option (List (List UInt8)) :=
  (incoming.filterMap Incoming.frame?).mapM (handleCommandFrame opts)

/-- What bytes from the server lead to. -/
structure Received where
  device : Device
  /-- The first AVL frame, if the IMEI was accepted just now. -/
  first : Option (List UInt8)
  incoming : List Incoming
  responses : List (List UInt8)

/-- The loop of `pump`, while streaming. -/
def Device.consume (first : Option (List UInt8)) (d : Device) : Option Received := do
  let drained := (pump opts).drain d.rxBuf
  return ⟨{ d with rxBuf := drained.buf }, first, drained.outs, ← respond opts drained.outs⟩

/-- Takes bytes from the server; the time is needed if they accept the IMEI. -/
def Device.receive (base : Int) (chunk : List UInt8) (d : Device) : Option Received :=
  let d := { d with rxBuf := d.rxBuf ++ chunk }
  match d.state, d.rxBuf with
  | .waitingHandshake, [] => some ⟨d, none, [], []⟩
  | .waitingHandshake, response :: rest =>
    if response = 0x01 then do
      let (packet, d) ← sendFrame opts env base
        { d with state := .streaming, rxBuf := rest, timer := true }
      d.consume opts (some packet)
    else some ⟨{ d with state := .exited, rxBuf := rest }, none, [], []⟩
  | .streaming, _ => d.consume opts none
  | .exited, _ => some ⟨d, none, [], []⟩

/-- The slices that a packet is written in: whole, or two to four of them with these lengths but for
the last. -/
def slices : List Nat → List UInt8 → List (List UInt8)
  | [], packet => [packet]
  | n :: ns, packet => packet.take n :: slices ns (packet.drop n)

def writePacket (lengths : List Nat) (packet : List UInt8) : Option (List (List UInt8)) :=
  if !opts.fragment then some [packet]
  else
    let parts := slices lengths packet
    if 2 ≤ parts.length ∧ parts.length ≤ 4 ∧ parts.all (!·.isEmpty) then some parts else none

/-- Takes bytes from the server, one read after the other, while streaming: what came of all. -/
def Device.receiveAll (base : Int) : List (List UInt8) → Device →
    Option (List Incoming × List (List UInt8) × Device)
  | [], d => some ([], [], d)
  | chunk :: rest, d => do
    let r ← d.receive opts env base chunk
    let (incoming, responses, d) ← Device.receiveAll base rest r.device
    return (r.incoming ++ incoming, r.responses ++ responses, d)

end RudraNetra.Simulator
