/-
Idle and stoppage reports: `reportIdle` and `reportStoppage` of
`internal/handler/handlers_admin.go`.

Both list stretches of time, from a position of the window to the next one of its device, if
they are longer than some minutes and no longer than two hours and the position at their end is
of a kind.  The rows are those of the queries before they are ordered, rounded and cut off.
-/
import RudraNetra.Api.Reports

namespace RudraNetra

open SQL

structure StretchRow where
  regNumber : String
  driver : String
  start : Int
  stop : Int
  minutes : ℚ

/-- `INTERVAL 'n minutes'` -/
def mins (n : Int) : Int := n * 60000

/-- The stretches of a window that are longer than `least`, no longer than `most`, and end at a
position of a kind. -/
def Fleet.stretches (fleet : Fleet) (companyID : Int) (range : String) (least most : Int)
    (kind : PositionRecord → Truth) : List StretchRow :=
  let points := fleet.pointsOf companyID (reportWindowFrom range)
  points.flatMap fun row =>
    match before points row with
    | none => []
    | some prev =>
      let ms := row.1.time - prev.1.time
      if (kind row.1).holds ∧ least < ms ∧ ms ≤ most then
        -- the vehicles are joined once more, of whichever company
        (fleet.vehicles.filter (·.deviceID = some row.1.deviceID)).flatMap fun v =>
          (fleet.driversOf v).map fun driver =>
            { regNumber := v.regNumber
              driver := (driver.map (·.name)).getD ""
              start := prev.1.time
              stop := row.1.time
              minutes := ms / 60000 }
      else []

/-- `pts.ignition AND pts.speed <= 2` -/
def idling (p : PositionRecord) : Truth :=
  Truth.and p.ignition (compare (· ≤ ·) p.speed (some 2))

/-- `NOT pts.ignition` -/
def stopped (p : PositionRecord) : Truth := Truth.not p.ignition

def Fleet.reportIdle (fleet : Fleet) (companyID : Int) (range : String) : List StretchRow :=
  fleet.stretches companyID range (mins 2) (hours 2) idling

def Fleet.reportStoppage (fleet : Fleet) (companyID : Int) (range : String) : List StretchRow :=
  fleet.stretches companyID range (mins 5) (hours 2) stopped

end RudraNetra
