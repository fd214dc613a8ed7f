/-
The alert engine of the worker: `internal/alertengine/engine.go`.

One goroutine takes the live events from Redis one after the other.  For each it finds the
rules of the event's company, which it keeps for a minute, and the record it keeps of the
device, and then tries four rules in turn.  A rule that finds something calls `raise`; the
device's record notes when, and the rule rests for its cooldown.

Every reading of the clock and every answer of the database is part of the event's
`Arrival`.  Here a call of `raise` is recorded; what it stores and publishes is the event's
company, device and place with the texts of the call.
-/
import RudraNetra.Domain.Position
import RudraNetra.Lib.GoTime

namespace RudraNetra

open Go

/-! ### Alerts -/

inductive AlertType where
  | overspeed
  | overIdle
  | powerCut
  | temperature
  deriving DecidableEq

def AlertType.text : AlertType → String
  | .overspeed => "overspeed"
  | .overIdle => "over_idle"
  | .powerCut => "power_cut"
  | .temperature => "temperature"

inductive Severity where
  | warning
  | critical
  deriving DecidableEq

def Severity.text : Severity → String
  | .warning => "warning"
  | .critical => "critical"

/-- A call of `raise`. -/
structure AlertCall where
  event : LiveEvent
  alertType : AlertType
  severity : Severity
  message : String

/-! ### Texts -/

/-- The nearest integer; of two, the even one. -/
def roundHalfEven (q : ℚ) : Int :=
  let rest := q - q.floor
  if rest < 1 / 2 then q.floor
  else if rest > 1 / 2 then q.floor + 1
  else if q.floor % 2 = 0 then q.floor else q.floor + 1

/-- `%.0f` and `%.1f`: the value rounded to so many decimals. -/
def formatFixed (decimals : Nat) (q : ℚ) : String :=
  let digits := toString (roundHalfEven (|q| * 10 ^ decimals))
  let padded := List.replicate (decimals + 1 - digits.length) '0' ++ digits.toList
  let whole := String.ofList (padded.take (padded.length - decimals))
  let fraction := String.ofList (padded.drop (padded.length - decimals))
  (if q < 0 then "-" else "") ++ whole ++ (if decimals = 0 then "" else "." ++ fraction)

/-- What a vehicle is called: its plate, or the number of its device. -/
def label (event : LiveEvent) : String :=
  if event.regNumber ≠ "" then event.regNumber else "#" ++ toString event.deviceID

/-! ### The rules of a company -/

/-- Below this external voltage the supply is cut. -/
def powerCutVoltage : ℚ := 43 / 2

/-- The band of temperatures, in degrees, in which a freezer is too warm. -/
def reeferBreachHigh : ℚ := -14
def reeferBreachLow : ℚ := 0

def overspeedCooldown : Int := 5 * minute
def idleCooldown : Int := 30 * minute
def powerCutCooldown : Int := 30 * minute
def temperatureCooldown : Int := 30 * minute
def defaultSpeedLimit : Int := 80
def defaultIdleMinutes : Int := 15
def rulesCacheTTL : Int := minute

structure CompanyRules where
  speedLimit : Int
  idleMinutes : Int
  loadedAt : Int

/-- What is kept of a device; the zero instant stands for never. -/
structure DeviceState where
  idleSince : Int
  lastOverspeed : Int
  lastIdle : Int
  lastPowerCut : Int
  lastTemperature : Int

def DeviceState.zero : DeviceState :=
  ⟨zeroInstant, zeroInstant, zeroInstant, zeroInstant, zeroInstant⟩

/-- An event to evaluate, and what is read of the clock and the database meanwhile. -/
structure Arrival where
  event : LiveEvent
  /-- The clock when the age of the company's rules is looked at. -/
  checkedAt : Nat
  /-- The clock when the rules are loaded, if they are. -/
  loadedAt : Nat
  /-- The clock when the rules are applied. -/
  now : Nat
  /-- The speed limit and the idle minutes in the company's settings, 0 if they are null; nothing
  if there are no settings or the query fails. -/
  settings : Option (Int × Int)

structure Engine where
  devices : Finmap fun _ : Int => DeviceState
  companies : Finmap fun _ : Int => CompanyRules

def Engine.new : Engine := ⟨∅, ∅⟩

/-- The rules as they are loaded for an event. -/
def Arrival.loadRules (a : Arrival) : CompanyRules :=
  match a.settings with
  | none => ⟨defaultSpeedLimit, defaultIdleMinutes, a.loadedAt⟩
  | some (speed, idle) =>
    ⟨if speed > 0 then speed else defaultSpeedLimit, if idle > 0 then idle else defaultIdleMinutes,
      a.loadedAt⟩

/-- The rules of the event's company: those kept if they are young enough, or else loaded. -/
def Engine.rules (e : Engine) (a : Arrival) : CompanyRules :=
  match e.companies.lookup a.event.companyID with
  | none => a.loadRules
  | some rules => if sub a.checkedAt rules.loadedAt < rulesCacheTTL then rules else a.loadRules

def Engine.deviceState (e : Engine) (deviceID : Int) : DeviceState :=
  (e.devices.lookup deviceID).getD DeviceState.zero

/-! ### The four rules -/

/-- What the rules have done so far for an event. -/
abbrev Evaluation : Type := DeviceState × List AlertCall

def overspeedRule (rules : CompanyRules) (a : Arrival) (state : DeviceState) : Evaluation :=
  if rules.speedLimit > 0 ∧ a.event.speed > rules.speedLimit ∧
      sub a.now state.lastOverspeed > overspeedCooldown then
    ({ state with lastOverspeed := a.now }, [⟨a.event, .overspeed, .critical,
      "Vehicle " ++ label a.event ++ " overspeeding at " ++ formatFixed 0 a.event.speed ++
        " km/h (limit " ++ toString rules.speedLimit ++ " km/h)"⟩])
  else (state, [])

def idleRule (rules : CompanyRules) (a : Arrival) (state : DeviceState) : Evaluation :=
  if a.event.ignition ∧ a.event.speed ≤ 2 then
    if state.idleSince = zeroInstant then ({ state with idleSince := a.now }, [])
    else if sub a.now state.idleSince ≥ minutes rules.idleMinutes ∧
        sub a.now state.lastIdle > idleCooldown then
      ({ state with lastIdle := a.now }, [⟨a.event, .overIdle, .warning,
        "Vehicle " ++ label a.event ++ " idling with ignition ON for " ++
          toString ((sub a.now state.idleSince).tdiv minute) ++ " minutes"⟩])
    else (state, [])
  else ({ state with idleSince := zeroInstant }, [])

def powerCutRule (a : Arrival) (state : DeviceState) : Evaluation :=
  match a.event.voltage with
  | none => (state, [])
  | some voltage =>
    if voltage > 0 ∧ voltage < powerCutVoltage ∧
        sub a.now state.lastPowerCut > powerCutCooldown then
      ({ state with lastPowerCut := a.now }, [⟨a.event, .powerCut, .critical,
        "Vehicle " ++ label a.event ++ " main power cut (external " ++ formatFixed 1 voltage ++
          " V, backup battery engaged)"⟩])
    else (state, [])

def temperatureRule (a : Arrival) (state : DeviceState) : Evaluation :=
  match a.event.temperature with
  | none => (state, [])
  | some temperature =>
    if temperature ≥ reeferBreachHigh ∧ temperature ≤ reeferBreachLow ∧
        sub a.now state.lastTemperature > temperatureCooldown then
      ({ state with lastTemperature := a.now }, [⟨a.event, .temperature, .critical,
        "Reefer unit " ++ label a.event ++ " temperature " ++ formatFixed 1 temperature ++
          "°C exceeded the -15.0°C threshold"⟩])
    else (state, [])

/-- The four rules in turn. -/
def applyRules (rules : CompanyRules) (a : Arrival) (state : DeviceState) : Evaluation :=
  let (state, overspeed) := overspeedRule rules a state
  let (state, idle) := idleRule rules a state
  let (state, powerCut) := powerCutRule a state
  let (state, temperature) := temperatureRule a state
  (state, overspeed ++ idle ++ powerCut ++ temperature)

/-- Applies the rules to one event; the calls of `raise`. -/
def Engine.evaluate (e : Engine) (a : Arrival) : Engine × List AlertCall :=
  let rules := e.rules a
  let (state, calls) := applyRules rules a (e.deviceState a.event.deviceID)
  (⟨e.devices.insert a.event.deviceID state, e.companies.insert a.event.companyID rules⟩, calls)

/-! ### The loop -/

/-- A message of the channel: an event, if the payload is one, and what is read meanwhile. -/
structure Message where
  event : Option LiveEvent
  checkedAt : Nat
  loadedAt : Nat
  now : Nat
  settings : Option (Int × Int)

/-- The event of a message, unless it lacks its device or company. -/
def Message.arrival (msg : Message) : Option Arrival :=
  msg.event.bind fun event =>
    if event.deviceID = 0 ∨ event.companyID = 0 then none
    else some ⟨event, msg.checkedAt, msg.loadedAt, msg.now, msg.settings⟩

/-- Evaluates the messages one after the other; all calls of `raise`. -/
def Engine.run (e : Engine) : List Message → Engine × List AlertCall
  | [] => (e, [])
  | msg :: rest =>
    match msg.arrival with
    | none => e.run rest
    | some a =>
      let (e, calls) := e.evaluate a
      let (e, calls') := e.run rest
      (e, calls ++ calls')

end RudraNetra
