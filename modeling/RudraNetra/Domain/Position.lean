/-
The records that travel through ingestion: `internal/domain/position.go`.

A `Position` is one GPS record of a device with the sensor values its IO elements
were mapped to.  The source keeps the measured quantities in floating point; here
they are the exact rationals the source's formulas denote, before rounding.
`RawData` is JSON text in the source, the rendering of a map from IO id to value;
here it is that map, and absent where the source leaves the text nil.
-/
import Mathlib

namespace RudraNetra

/-- A value in the raw IO map: an integer, or the hexadecimal text of a byte string. -/
inductive RawValue where
  | num (value : Int)
  | hex (text : String)
  deriving DecidableEq

/-- The raw IO map, from the decimal IO id to its value. -/
abbrev RawMap : Type := Finmap fun _ : String => RawValue

/-- The instant of the zero `time.Time`, in milliseconds since the Unix epoch. -/
def zeroTime : Int := -62135596800000

/-- A GPS position received from a device. -/
structure Position where
  /-- Milliseconds since the Unix epoch. -/
  time : Int
  deviceID : Int
  latitude : ℚ
  longitude : ℚ
  speed : ℚ
  heading : ℚ
  altitude : ℚ
  satellites : Int
  ignition : Bool
  gsmSignal : Int
  voltage : ℚ
  temperature : ℚ
  odometer : Int
  rfidTag : String
  fuelLevelPct : Option ℚ
  backupBatteryV : Option ℚ
  doorOpen : Option Bool
  /-- All IO elements. -/
  rawData : Option RawMap

/-- The position of a device before anything is decoded into it. -/
def Position.zero (deviceID : Int) : Position where
  time := zeroTime
  deviceID := deviceID
  latitude := 0
  longitude := 0
  speed := 0
  heading := 0
  altitude := 0
  satellites := 0
  ignition := false
  gsmSignal := 0
  voltage := 0
  temperature := 0
  odometer := 0
  rfidTag := ""
  fuelLevelPct := none
  backupBatteryV := none
  doorOpen := none
  rawData := none

/-- What the raw IO map records for a key. -/
def Position.raw (pos : Position) (key : String) : Option RawValue :=
  pos.rawData.bind (·.lookup key)

/-- The payload published for the WebSocket hub. -/
structure LiveEvent where
  companyID : Int
  deviceID : Int
  regNumber : String
  lat : ℚ
  lng : ℚ
  speed : ℚ
  heading : ℚ
  ignition : Bool
  status : String
  temperature : Option ℚ
  voltage : Option ℚ
  fuelPct : Option ℚ
  batteryV : Option ℚ
  doorOpen : Option Bool
  odometer : Int
  /-- The source formats this instant as RFC 3339 text. -/
  timestamp : Int

end RudraNetra
