/-
One connection from its handshake to its end: `handleDeviceConnection` of
`cmd/rudra-ingest/main.go`.

The first read is taken for the handshake packet: the IMEI is parsed, the device looked
up, and the connection accepted or rejected.  Each later read is appended to the framer,
which is then emptied, and every frame goes to the handler of its codec.  A checksum
that does not match is counted and logged.

The reads are what `conn.Read` returns, one after the other, until it fails or the server
stops.  `lastCommand` is shared with the goroutine that delivers commands: what that has
stored there comes from the environment.  The session's entry in the registry is in
`Ingest/Sessions.lean`.
-/
import RudraNetra.Ingest.Commands
import RudraNetra.Ingest.Sessions
import RudraNetra.Lib.Trace

namespace RudraNetra

open Go

/-- What a handler finds besides. -/
structure ConnEnv extends Env where
  /-- The last id that was stored in `lastCommand` since the handler used it, at a load of it. -/
  commandStored : Nat → Option Int

/-- The counters that the frames of a connection change, but for those of `handleAVLFrame`. -/
structure ConnStats where
  frames : Nat
  crcMismatches : Nat
  unsupportedCodec : Nat
  commandsAcked : Nat

/-- A response as it is recorded, and whether the statement was carried out. -/
structure ResponseUpdate where
  commandID : Int
  text : List UInt8
  ok : Bool

structure ConnWorld extends World where
  connStats : ConnStats
  /-- `device_commands.id` awaiting a Codec 12 response, as far as the handler knows. -/
  lastCommand : Int
  /-- Loads of `lastCommand` so far. -/
  loads : Nat
  responses : List ResponseUpdate

/-- `sess.lastCommand.Load()` -/
def ConnWorld.commandID (env : ConnEnv) (w : ConnWorld) : Int :=
  (env.commandStored w.loads).getD w.lastCommand

/-- Whether the checksum field says that there is no checksum. -/
def isZeroCRC (crc : List UInt8) : Bool := crc.all (· == 0)

/-- Records a response on the row of the command that awaits one. -/
def handleCommandResponse (env : ConnEnv) (payload : List UInt8) (w : ConnWorld) : ConnWorld :=
  match responseText payload with
  | none => w
  | some text =>
    let commandID := w.commandID env
    let w := { w with lastCommand := commandID, loads := w.loads + 1 }
    if commandID > 0 then
      { w with
        statements := w.statements + 1
        responses := w.responses ++ [⟨commandID, text, env.execOk w.statements⟩]
        lastCommand := 0
        connStats := { w.connStats with commandsAcked := w.connStats.commandsAcked + 1 } }
    else w

/-- Counts a frame, and whether its checksum does not match. -/
def ConnWorld.count (frame : Frame) (w : ConnWorld) : ConnWorld :=
  { w with
    connStats := { w.connStats with
      frames := w.connStats.frames + 1
      crcMismatches := if !isZeroCRC frame.crc && !frame.crcValid then
        w.connStats.crcMismatches + 1 else w.connStats.crcMismatches } }

/-- Hands a frame to the handler of its codec; no result if the handler panics. -/
def dispatch (env : ConnEnv) (redis : Bool) (sess : DeviceSession) (w : ConnWorld) (frame : Frame) :
    Option ConnWorld :=
  let w := w.count frame
  match frame.payload with
  | [] => none -- `payload[0]`
  | id :: _ =>
    if id = codec12 then some (handleCommandResponse env frame.payload w)
    else if id = codec8 ∨ id = codec8E then
      (handleAVLFrame env.toEnv redis sess frame.payload w.toWorld).map fun w' =>
        { w with toWorld := w' }
    else some { w with
      connStats := { w.connStats with unsupportedCodec := w.connStats.unsupportedCodec + 1 } }

/-- A frame that was handed to the dispatcher, and the state around it. -/
abbrev Handled : Type := Trace.Entry ConnWorld Frame

/-- The loop over the reads. -/
def readLoop (env : ConnEnv) (redis : Bool) (sess : DeviceSession) :
    List (List UInt8) → StreamFramer → ConnWorld → Option (List Handled × ConnWorld)
  | [], _, w => some ([], w)
  | chunk :: rest, framer, w =>
    if chunk = [] then readLoop env redis sess rest framer w
    else do
      let d := (framer.append chunk).drain
      let (handled, w) ← Trace.run (dispatch env redis sess) d.outs w
      let (handled', w) ← readLoop env redis sess rest ⟨d.buf⟩ w
      return (handled ++ handled', w)

/-- What came of a connection. -/
structure ConnRun where
  /-- The session, if the handshake was accepted. -/
  session : Option DeviceSession
  handled : List Handled
  world : ConnWorld

/-- Writes to the socket. -/
def ConnWorld.write (env : ConnEnv) (w : ConnWorld) (bytes : List UInt8) : ConnWorld :=
  { w with toWorld := w.toWorld.write env.toEnv bytes }

/-- Handles a connection; `answer` is what the database answers about an IMEI. -/
def handleDeviceConnection (env : ConnEnv) (redis : Bool) (answer : List UInt8 → Option DeviceAnswer)
    (reads : List (List UInt8)) (w : ConnWorld) : Option ConnRun :=
  match reads with
  | [] => some ⟨none, [], w⟩
  | packet :: rest =>
    match parseIMEI packet with
    | .error .panic => none
    | .error (.error _) => some ⟨none, [], w.write env imeiReject⟩
    | .ok imei =>
      match answer imei with
      | none => some ⟨none, [], w.write env imeiReject⟩
      | some d =>
        let sess : DeviceSession := ⟨imei, d.deviceID, d.companyID, d.regNumber⟩
        let accepted := w.write env imeiAccept
        if env.writeOk w.written.length then
          let beaten := (accepted.toWorld.exec env.toEnv (.heartbeat d.deviceID)).1
          (readLoop env redis sess rest .new { accepted with toWorld := beaten }).map fun r =>
            ⟨some sess, r.1, r.2⟩
        else some ⟨some sess, [], accepted⟩

end RudraNetra
