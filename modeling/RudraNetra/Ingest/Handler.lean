/-
Handling an AVL frame: `handleAVLFrame` of `cmd/rudra-ingest/main.go`.

The handler decodes the frame, stores the positions, raises the odometers, publishes
the positions if any were stored, notes that the device is alive, and answers with the
number of rows that were stored.  A frame that does not decode is dropped without an
answer.
-/
import RudraNetra.Codec.Teltonika
import RudraNetra.Store.PositionRepo

namespace RudraNetra

open Go

/-- An active device connection: what the handler reads of it. -/
structure DeviceSession where
  imei : List UInt8
  deviceID : Int
  companyID : Int
  regNumber : String
  deriving DecidableEq

/-- The status of a vehicle at a position. -/
def positionStatus (pos : Position) : String :=
  if pos.speed > 2 then "moving" else if pos.ignition then "idle" else "stopped"

/-- The live event of a position.  A temperature or voltage of zero counts as not measured. -/
def liveEvent (sess : DeviceSession) (pos : Position) : LiveEvent where
  companyID := sess.companyID
  deviceID := sess.deviceID
  regNumber := sess.regNumber
  lat := pos.latitude
  lng := pos.longitude
  speed := pos.speed
  heading := pos.heading
  ignition := pos.ignition
  status := positionStatus pos
  temperature := if pos.temperature ≠ 0 then some pos.temperature else none
  voltage := if pos.voltage ≠ 0 then some pos.voltage else none
  fuelPct := pos.fuelLevelPct
  batteryV := pos.backupBatteryV
  doorOpen := pos.doorOpen
  odometer := pos.odometer
  timestamp := pos.time

/-- Pushes a live event to Redis, if Redis is there. -/
def publishPosition (env : Env) (redis : Bool) (sess : DeviceSession) (pos : Position) (w : World) :
    World :=
  if redis then
    let ok := env.publishOk w.published.length
    { w with
      published := w.published ++ [(liveEvent sess pos, ok)]
      stats := if ok then w.stats
        else { w.stats with publishErrors := w.stats.publishErrors + 1 } }
  else w

/-- Gives positions without a time the current one; `readings` counts readings of the clock. -/
def normalise (clock : Nat → Int) : List Position → Nat → List Position × Nat
  | [], readings => ([], readings)
  | pos :: rest, readings =>
    if pos.time = zeroTime then
      let (rest, readings') := normalise clock rest (readings + 1)
      ({ pos with time := clock readings } :: rest, readings')
    else
      let (rest, readings') := normalise clock rest readings
      (pos :: rest, readings')

/-- Raises the odometer of the vehicle and publishes the position. -/
def goLive (env : Env) (redis : Bool) (sess : DeviceSession) (w : World) (pos : Position) : World :=
  let w := if pos.odometer > 0 then (w.exec env (.raiseOdometer pos.odometer sess.deviceID)).1 else w
  publishPosition env redis sess pos w

/-- Decodes, stores and acknowledges one AVL frame; no result if the decoder panics. -/
def handleAVLFrame (env : Env) (redis : Bool) (sess : DeviceSession) (payload : List UInt8)
    (w : World) : Option World :=
  match parseFrame payload sess.deviceID with
  | .panics => none
  | .returns _ (some _) =>
    some { w with stats := { w.stats with parseErrors := w.stats.parseErrors + 1 } }
  | .returns positions none =>
    let (positions, readings) := normalise env.timeNow positions w.readings
    let w := { w with readings := readings }
    let (w, stored, ok) := insertBatch env positions w
    let w := { w with
      stats := { w.stats with
        batchErrors := if ok then w.stats.batchErrors else w.stats.batchErrors + 1
        records := w.stats.records + positions.length
        positionsStored := w.stats.positionsStored + stored } }
    let w := if stored > 0 then positions.foldl (goLive env redis sess) w else w
    let (w, _) := w.exec env (.heartbeat sess.deviceID)
    some (w.write env (acknowledge stored))

end RudraNetra
