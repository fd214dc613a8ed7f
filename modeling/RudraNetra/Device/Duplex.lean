/-
A simulator on a connection of `rudra-ingest`.

Both ends write to streams of bytes, and each reads from its stream as much as has arrived.
The simulator writes AVL frames when its timer fires, in slices if it fragments them, and the
answers to commands when it reads these.  The server reads its stream into the framer and hands
the frames to their handlers, which acknowledge them, and meanwhile commands are written for
the device.

The handshake packet has been read, and the IMEI accepted.  A read of the server is one step with
all that comes of it: a command that is written between two of its acknowledgements is written
between two smaller reads.  A run ends where a write of the server fails.
-/
import RudraNetra.Device.Simulator
import RudraNetra.Ingest.Connection
import RudraNetra.Lib.Machine

namespace RudraNetra.Simulator

open Wire Go

/-- What the server sends to a device after it has accepted it. -/
inductive ServerMessage where
  | acknowledged (count : Nat)
  | commanded (command : String)
  deriving DecidableEq

def ServerMessage.encode : ServerMessage → List UInt8
  | .acknowledged count => acknowledge count
  | .commanded command => buildCommandFrame (bytesOf command)

/-- What the device should take it for. -/
def ServerMessage.incoming : ServerMessage → Incoming
  | .acknowledged count => .acked count
  | .commanded command => .command (buildCommandFrame (bytesOf command))

/-- The commands among the messages. -/
def ServerMessage.command? : ServerMessage → Option String
  | .acknowledged _ => none
  | .commanded command => some command

def commandsOf (msgs : List ServerMessage) : List String := msgs.filterMap ServerMessage.command?

/-- What the simulator writes: the frame of some records, or the answer to a command. -/
inductive Packet where
  | records (recs : List Rec)
  | response (command : String)

/-- The two ends, and what is between them. -/
structure Duplex where
  device : Device
  /-- Slices of packets that wait for their timers. -/
  pending : List (List (List UInt8))
  upstream : List UInt8
  framer : StreamFramer
  world : ConnWorld
  downstream : List UInt8
  /-- What was written and what was read at either end; nothing looks at this. -/
  packets : List Packet
  handled : List Frame
  sent : List ServerMessage
  read : List Incoming

inductive DuplexEvent where
  /-- The timer sends a frame, in slices of these lengths if it is fragmented. -/
  | tick (base : Int) (lengths : List Nat)
  /-- The timer of the next slice of a packet fires. -/
  | slice (i : Nat)
  /-- The server reads so many bytes. -/
  | serverRead (n : Nat)
  /-- A command is written for the device. -/
  | command (text : String)
  /-- The device reads so many bytes. -/
  | deviceRead (base : Int) (lengths : List Nat) (n : Nat)

/-- Once the IMEI is accepted, with nothing read by the device. -/
def Duplex.accepted (world : ConnWorld) : Duplex where
  device := .new
  pending := []
  upstream := []
  framer := .new
  world := world
  downstream := imeiAccept
  packets := []
  handled := []
  sent := []
  read := []

/-- Writes the first slice of a packet, and keeps the others. -/
def Duplex.put (s : Duplex) (packet : Packet) (parts : List (List UInt8)) : Duplex :=
  { s with
    upstream := s.upstream ++ parts.headD []
    pending := s.pending ++ if parts.tail = [] then [] else [parts.tail]
    packets := s.packets ++ [packet] }

/-- The packet that answers what was taken off the buffer, if it is a command. -/
def Incoming.response? : Incoming → Option Packet
  | .acked _ => none
  | .command frame => (commandOf frame).map .response

variable (opts : Options) (env : Env) (conn : ConnEnv) (redis : Bool) (sess : DeviceSession)

/-- Writes the first AVL frame, if the IMEI was accepted just now. -/
def Duplex.start (base : Int) (lengths : List Nat) (s : Duplex) :
    Option (List UInt8) → Option Duplex
  | none => some s
  | some packet =>
    (writePacket opts lengths packet).map
      (s.put (.records (burstRecords opts env base opts.burst 0 s.device.sim).1))

def Duplex.step (s : Duplex) : DuplexEvent → Option Duplex
  | .tick base lengths =>
    if s.device.state = .streaming ∧ s.device.timer then do
      let (packet, device) ← sendFrame opts env base s.device
      let parts ← writePacket opts lengths packet
      let recs := (burstRecords opts env base opts.burst 0 s.device.sim).1
      return { s.put (.records recs) parts with device := device }
    else none
  | .slice i =>
    match s.pending[i]? with
    | some (part :: rest) => some { s with
        upstream := s.upstream ++ part
        pending := if rest = [] then s.pending.eraseIdx i else s.pending.set i rest }
    | _ => none
  | .serverRead n =>
    if n = 0 ∨ s.upstream.length < n then none
    else do
      let d := (s.framer.append (s.upstream.take n)).drain
      let (_, world) ← Trace.run (dispatch conn redis sess) d.outs s.world
      let written := world.written.drop s.world.written.length
      if written.all (·.2) then some { s with
        upstream := s.upstream.drop n
        framer := ⟨d.buf⟩
        world := world
        downstream := s.downstream ++ (written.map (·.1)).flatten
        handled := s.handled ++ d.outs
        sent := s.sent ++ written.map fun answer => .acknowledged (beNat answer.1) }
      else none
  | .command text => some { s with
      downstream := s.downstream ++ buildCommandFrame (bytesOf text)
      sent := s.sent ++ [.commanded text] }
  | .deviceRead base lengths n =>
    if n = 0 ∨ s.downstream.length < n then none
    else do
      let r ← s.device.receive opts env base (s.downstream.take n)
      let s ← s.start opts env base lengths r.first
      return { s with
        device := r.device
        upstream := s.upstream ++ r.responses.flatten
        downstream := s.downstream.drop n
        packets := s.packets ++ r.incoming.filterMap Incoming.response?
        read := s.read ++ r.incoming }

/-- The simulator and the server, from the acceptance on. -/
def duplex (world : ConnWorld) : Machine Duplex DuplexEvent :=
  ⟨.accepted world, Duplex.step opts env conn redis sess⟩

end RudraNetra.Simulator
