/-
Connections beside the device registry: `handleDeviceConnection` and `publishPosition` of
`cmd/rudra-ingest/main.go`, and the handlers of the API that change the registry.

A handler looks its device up when the IMEI comes: first the id, then the company and the
plate.  What it found is its session, and every frame is stored and published under it.
The registry may change at any time: a device gets another company when it is
provisioned again, or is deleted.

A frame is handled in steps: a statement for each chunk, then an event for each position
if any was stored.  The statements for the odometer and the heartbeat are left out; they
touch nothing that is read here.
-/
import RudraNetra.Ingest.Handler
import RudraNetra.Lib.Machine
import RudraNetra.Live.Hub
import RudraNetra.Store.Devices

namespace RudraNetra

/-- What a handler has to do for the frame it has taken. -/
inductive FrameWork where
  | none
  | storing (positions : List Position) (chunks : List (List Position)) (stored : Nat)
  | publishing (positions : List Position)

/-- Where the handler of a connection is. -/
inductive LiveHandler where
  | absent
  | accepted
  /-- The device is found, and its company and plate are not. -/
  | resolved (imei : List UInt8) (deviceID : Int)
  | serving (sess : DeviceSession) (work : FrameWork)

/-- A stored position, and the registry when it was stored. -/
structure StoredPosition where
  devices : List DeviceRow
  position : Position

/-- A published event, and the registry when it was published. -/
structure PublishedEvent where
  devices : List DeviceRow
  event : LiveEvent

structure LiveState (Conn : Type) where
  db : Database
  nextDevice : Int
  handler : Conn → LiveHandler
  /-- What was stored and published; this is not looked at. -/
  stored : List StoredPosition
  published : List PublishedEvent

inductive LiveStep (Conn : Type) where
  | accept (conn : Conn)
  /-- The IMEI comes and `GetByIMEI` is asked for it. -/
  | resolve (conn : Conn) (imei : List UInt8)
  /-- `lookupDeviceContext` is asked, and the session made. -/
  | context (conn : Conn)
  | leave (conn : Conn)
  /-- A frame is taken, decoded and normalised. -/
  | frame (conn : Conn) (payload : List UInt8) (clock : Nat → Int)
  /-- A chunk is sent; it is stored at some time, or the statement fails. -/
  | chunk (conn : Conn) (outcome : Option Int)
  /-- The next position is published, if Redis takes it. -/
  | publish (conn : Conn) (ok : Bool)
  /-- A device is provisioned, perhaps again. -/
  | provision (imei : List UInt8) (companyID : Option Int)
  | delete (deviceID companyID : Int)

/-- What is left to do when all chunks are sent, or one has failed. -/
def FrameWork.afterBatch (positions : List Position) (stored : Nat) : FrameWork :=
  if stored > 0 then .publishing positions else .none

section

variable {Conn : Type} [DecidableEq Conn]

def LiveState.setHandler (s : LiveState Conn) (conn : Conn) (handler : LiveHandler) :
    LiveState Conn :=
  { s with handler := Function.update s.handler conn handler }

def LiveState.step (s : LiveState Conn) : LiveStep Conn → Option (LiveState Conn)
  | .accept conn =>
    match s.handler conn with
    | .absent => some (s.setHandler conn .accepted)
    | _ => none
  | .resolve conn imei =>
    match s.handler conn with
    | .accepted =>
      match s.db.deviceByIMEI imei with
      | none => some (s.setHandler conn .absent)
      | some deviceID => some (s.setHandler conn (.resolved imei deviceID))
    | _ => none
  | .context conn =>
    match s.handler conn with
    | .resolved imei deviceID =>
      let (companyID, regNumber) := s.db.lookupDeviceContext deviceID
      some (s.setHandler conn (.serving ⟨imei, deviceID, companyID, regNumber⟩ .none))
    | _ => none
  | .leave conn => some (s.setHandler conn .absent)
  | .frame conn payload clock =>
    match s.handler conn with
    | .serving sess .none =>
      match parseFrame payload sess.deviceID with
      | .returns positions none =>
        let positions := (normalise clock positions 0).1
        some (s.setHandler conn (.serving sess (.storing positions (chunks positions) 0)))
      | _ => some s
    | _ => none
  | .chunk conn outcome =>
    match s.handler conn with
    | .serving sess (.storing positions [] stored) =>
      some (s.setHandler conn (.serving sess (.afterBatch positions stored)))
    | .serving sess (.storing positions (chunk :: rest) stored) =>
      match outcome.bind fun now => s.db.exec now (.insertPositions (batchStatement chunk)) with
      | some (db, affected) =>
        some { s.setHandler conn (.serving sess (.storing positions rest (stored + affected))) with
          db := db
          stored := s.stored ++ chunk.map fun pos => ⟨s.db.devices, pos⟩ }
      | none => some (s.setHandler conn (.serving sess (.afterBatch positions stored)))
    | _ => none
  | .publish conn ok =>
    match s.handler conn with
    | .serving sess (.publishing []) => some (s.setHandler conn (.serving sess .none))
    | .serving sess (.publishing (pos :: rest)) =>
      some { s.setHandler conn (.serving sess (.publishing rest)) with
        published := if ok then s.published ++ [⟨s.db.devices, liveEvent sess pos⟩]
          else s.published }
    | _ => none
  | .provision imei companyID =>
    some { s with
      db := s.db.upsertDevice s.nextDevice imei companyID
      nextDevice := s.nextDevice + 1 }
  | .delete deviceID companyID => some { s with db := s.db.deleteDevice deviceID companyID }

/-- The ingest server and the API, with some database and no connection at the beginning. -/
def liveSessions (Conn : Type) [DecidableEq Conn] (db : Database) (nextDevice : Int) :
    Machine (LiveState Conn) (LiveStep Conn) where
  init := ⟨db, nextDevice, fun _ => .absent, [], []⟩
  step := LiveState.step

end

end RudraNetra
