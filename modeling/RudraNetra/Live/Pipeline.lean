/-
From the devices to the browsers: the three programs around Redis.

`rudra-ingest` publishes live events on `PositionsChannel`.  Two subscribe to it: the alert
engine of `rudra-worker`, which stores alerts and publishes them on `AlertsChannel`
(`internal/alertengine/engine.go`), and `rudra-api`.  The API hands the events and the
alerts to its hub, in a goroutine for each (`subscribeLivePositions` and
`subscribeLiveAlerts` of `cmd/rudra-api/main.go`), and the hub to the browsers.

Redis keeps nothing: a subscriber that is not there, or too slow, loses messages.  So
each subscription is a channel of its own that may lose any of them.

The alerts of one event are published here at once.  A handler of the API upgrades a
connection only for a token with a company, so a client's company is positive.
-/
import RudraNetra.Alerts.Ledger
import RudraNetra.Ingest.LiveSessions
import RudraNetra.Lib.Channel
import RudraNetra.Lib.GoNumber

namespace RudraNetra

/-- The message of a WebSocket: `Message` with its type. -/
inductive LiveMessage where
  | position (event : LiveEvent)
  | alert (event : AlertEvent)

/-- The company that a message is about. -/
def LiveMessage.companyID : LiveMessage → Int
  | .position event => event.companyID
  | .alert event => event.companyID

def LiveMessage.deviceID : LiveMessage → Int
  | .position event => event.deviceID
  | .alert event => event.deviceID

/-- The live event, if it is the message of one. -/
def LiveMessage.position? : LiveMessage → Option LiveEvent
  | .position event => some event
  | .alert _ => none

/-- The alert, if it is the message of one. -/
def LiveMessage.alert? : LiveMessage → Option AlertEvent
  | .position _ => none
  | .alert event => some event

@[simp] theorem LiveMessage.position?_position (event : LiveEvent) :
    (position event).position? = some event := rfl

@[simp] theorem LiveMessage.position?_alert (event : AlertEvent) :
    (alert event).position? = none := rfl

@[simp] theorem LiveMessage.alert?_position (event : LiveEvent) :
    (position event).alert? = none := rfl

@[simp] theorem LiveMessage.alert?_alert (event : AlertEvent) :
    (alert event).alert? = some event := rfl

/-- What the API broadcasts for an alert from Redis; its company is read as a `float64`. -/
def forwardAlert (event : AlertEvent) (data : List UInt8) : Option BroadcastMessage :=
  let companyID := Go.float64 event.companyID
  if companyID = 0 then none else some (alertMessage (Go.int64 companyID) data)

/-- What is broadcast for a message; `marshal` is `json.Marshal`. -/
def LiveMessage.broadcast (marshal : LiveMessage → List UInt8) (m : LiveMessage) :
    Option BroadcastMessage :=
  match m with
  | .position event => forwardPosition event (marshal m)
  | .alert event => forwardAlert event (marshal m)

/-- The subscriptions. -/
inductive Subscription where
  /-- The API's to `PositionsChannel`. -/
  | positions
  /-- The worker's to `PositionsChannel`. -/
  | telemetry
  /-- The API's to `AlertsChannel`. -/
  | alerts

structure Pipeline (Conn : Type) where
  ingest : LiveState Conn
  positions : Channel LiveEvent
  telemetry : Channel LiveEvent
  ledger : Ledger
  alerts : Channel AlertEvent
  hub : Hub
  /-- What was put into the queue of the hub; this is not looked at. -/
  forwarded : List LiveMessage

inductive PipelineStep (Conn : Type) where
  | ingest (step : LiveStep Conn)
  /-- Redis loses the message at a place of a subscription. -/
  | lose (subscription : Subscription) (i : Nat)
  /-- The worker takes an event and evaluates it. -/
  | evaluate (checkedAt loadedAt now : Nat) (settings : Option (Int × Int))
    (answer : AlertType → Option Inserted)
  /-- The API takes an event and puts it into the queue of the hub, which has room. -/
  | forwardPosition
  | forwardAlert
  /-- A step of the hub or of a browser. -/
  | hub (event : HubEvent)

section

variable {Conn : Type} [DecidableEq Conn] (marshal : LiveMessage → List UInt8)

/-- The events that a step of the ingest server published. -/
def LiveState.newEvents (s s' : LiveState Conn) : List LiveEvent :=
  (s'.published.drop s.published.length).map (·.event)

/-- Puts a message into the queue of the hub, or drops it if there is nothing to broadcast. -/
def Pipeline.forward (s : Pipeline Conn) (m : LiveMessage) : Option (Pipeline Conn) :=
  match m.broadcast marshal with
  | none => some s
  | some msg => (s.hub.step (.enqueue msg)).map fun hub =>
    { s with hub := hub, forwarded := s.forwarded ++ [m] }

def Pipeline.step (s : Pipeline Conn) : PipelineStep Conn → Option (Pipeline Conn)
  | .ingest step => do
    let ingest ← s.ingest.step step
    let events := s.ingest.newEvents ingest
    return { s with
      ingest := ingest
      positions := s.positions.send events
      telemetry := s.telemetry.send events }
  | .lose .positions i => some { s with positions := s.positions.lose i }
  | .lose .telemetry i => some { s with telemetry := s.telemetry.lose i }
  | .lose .alerts i => some { s with alerts := s.alerts.lose i }
  | .evaluate checkedAt loadedAt now settings answer => do
    let (event, telemetry) ← s.telemetry.take
    let s := { s with telemetry := telemetry }
    match (Message.mk (some event) checkedAt loadedAt now settings).arrival with
    | none => return s
    | some arrival =>
      let incident : Incident := ⟨arrival, answer⟩
      return { s with
        ledger := s.ledger.evaluate incident
        alerts := s.alerts.send ((incident.stores s.ledger.engine).map (·.2)) }
  | .forwardPosition => do
    let (event, positions) ← s.positions.take
    { s with positions := positions }.forward marshal (.position event)
  | .forwardAlert => do
    let (event, alerts) ← s.alerts.take
    { s with alerts := alerts }.forward marshal (.alert event)
  | .hub (.enqueue _) => none -- only the goroutines above do
  | .hub (.connect c id companyID) =>
    if companyID ≤ 0 then none
    else (s.hub.step (.connect c id companyID)).map fun hub => { s with hub := hub }
  | .hub event => (s.hub.step event).map fun hub => { s with hub := hub }

/-- The three programs, with some database and nothing under way at the beginning. -/
def pipeline (db : Database) (nextDevice : Int) : Machine (Pipeline Conn) (PipelineStep Conn) where
  init := ⟨(liveSessions Conn db nextDevice).init, .empty, .empty, .new, .empty, hub.init, []⟩
  step := Pipeline.step marshal

end

end RudraNetra
