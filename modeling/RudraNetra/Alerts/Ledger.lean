/-
What becomes of the calls of `raise`: `internal/alertengine/engine.go`.

A call inserts a row into `alerts` and, if that succeeds, publishes a message for the hub.
If it fails, the error is logged and nothing else happens.  The engine has noted the time
of the alert before, and does not learn of it.
-/
import RudraNetra.Alerts.Engine

namespace RudraNetra

/-- A row of `alerts`, as `raise` inserts it. -/
structure AlertRow where
  id : Int
  companyID : Int
  deviceID : Int
  alertType : String
  message : String
  lng : ℚ
  lat : ℚ
  acknowledged : Bool
  severity : String
  createdAt : Int

/-- What is published on the alerts channel. -/
structure AlertEvent where
  id : Int
  companyID : Int
  deviceID : Int
  alertType : String
  severity : String
  message : String
  vehicle : String
  lat : ℚ
  lng : ℚ
  timestamp : Int

/-- What a successful `INSERT` returns, with the clocks of the row and of the message. -/
structure Inserted where
  id : Int
  createdAt : Int
  publishedAt : Int

/-- `raise`: the row and the message, unless the `INSERT` fails. -/
def raise (call : AlertCall) (answer : Option Inserted) : Option (AlertRow × AlertEvent) :=
  answer.map fun inserted =>
    (⟨inserted.id, call.event.companyID, call.event.deviceID, call.alertType.text, call.message,
        call.event.lng, call.event.lat, false, call.severity.text, inserted.createdAt⟩,
      ⟨inserted.id, call.event.companyID, call.event.deviceID, call.alertType.text,
        call.severity.text, call.message, label call.event, call.event.lat, call.event.lng,
        inserted.publishedAt⟩)

/-- An event to evaluate, and what the database answers to the `INSERT` of an alert of each type.
An event raises at most one alert of a type. -/
structure Incident where
  arrival : Arrival
  answer : AlertType → Option Inserted

/-- What an engine stores and publishes at an incident. -/
def Incident.stores (i : Incident) (e : Engine) : List (AlertRow × AlertEvent) :=
  (e.evaluate i.arrival).2.filterMap fun call => raise call (i.answer call.alertType)

/-- The engine, the rows it has stored and the messages it has published. -/
structure Ledger where
  engine : Engine
  alerts : List AlertRow
  published : List AlertEvent

def Ledger.new : Ledger := ⟨Engine.new, [], []⟩

def Ledger.evaluate (l : Ledger) (i : Incident) : Ledger :=
  ⟨(l.engine.evaluate i.arrival).1, l.alerts ++ (i.stores l.engine).map (·.1),
    l.published ++ (i.stores l.engine).map (·.2)⟩

/-- The ledger after a history. -/
def Ledger.after (tr : List Incident) : Ledger := tr.foldl Ledger.evaluate Ledger.new

end RudraNetra
