/-
The table `device_commands` and the statements on it.

The API stores a command as `Sent`.  Ingestion marks it `Delivered` when it has been
written to the device's socket, unless it is in another state by then, and
`Acknowledged` when a response has come, whatever state it is in.
-/
import RudraNetra.Store.Database

namespace RudraNetra

/-- The states the table's comment names.  No statement sets `failed`. -/
inductive CommandStatus where
  | sent
  | delivered
  | acknowledged
  | failed
  deriving DecidableEq

/-- How far along its way a command is. -/
def CommandStatus.rank : CommandStatus → Nat
  | .sent => 0
  | .delivered => 1
  | .acknowledged => 2
  | .failed => 3

structure CommandRow where
  id : Int
  companyID : Int
  deviceID : Int
  vehicleID : Option Int
  commandType : String
  commandPayload : String
  sentBy : Option String
  status : CommandStatus
  sentAt : Int
  deliveredAt : Option Int
  ackAt : Option Int
  response : Option (List UInt8)
  deriving DecidableEq

/-- `NULLIF(text, '')`. -/
def nullIfEmpty (text : String) : Option String := if text = "" then none else some text

/-- `UPDATE device_commands SET status = 'Delivered', delivered_at = NOW()
WHERE id = $1 AND status = 'Sent'`, on one row. -/
def CommandRow.deliver (now id : Int) (r : CommandRow) : CommandRow :=
  if r.id = id ∧ r.status = .sent then { r with status := .delivered, deliveredAt := some now } else r

/-- `UPDATE device_commands SET status = 'Acknowledged', ack_at = NOW(), response = $1
WHERE id = $2`, on one row. -/
def CommandRow.acknowledge (now : Int) (response : List UInt8) (id : Int) (r : CommandRow) :
    CommandRow :=
  if r.id = id then
    { r with status := .acknowledged, ackAt := some now, response := some response }
  else r

def markDelivered (now id : Int) (rows : List CommandRow) : List CommandRow :=
  rows.map (·.deliver now id)

def markAcknowledged (now : Int) (response : List UInt8) (id : Int) (rows : List CommandRow) :
    List CommandRow :=
  rows.map (·.acknowledge now response id)

/-! ### What a statement does to a row -/

@[simp] theorem CommandRow.deliver_id (now id : Int) (r : CommandRow) :
    (r.deliver now id).id = r.id := by
  unfold CommandRow.deliver
  split <;> rfl

@[simp] theorem CommandRow.acknowledge_id (now : Int) (response : List UInt8) (id : Int)
    (r : CommandRow) : (r.acknowledge now response id).id = r.id := by
  unfold CommandRow.acknowledge
  split <;> rfl

/-- A delivery leaves every row alone that is not `Sent`. -/
theorem CommandRow.deliver_of_ne {now id : Int} {r : CommandRow} (h : r.status ≠ .sent) :
    r.deliver now id = r := if_neg fun hr => h hr.2

/-- A response leaves the rows of other commands alone. -/
theorem CommandRow.acknowledge_of_ne {now id : Int} {response : List UInt8} {r : CommandRow}
    (h : r.id ≠ id) : r.acknowledge now response id = r := if_neg h

theorem CommandRow.acknowledge_self (now : Int) (response : List UInt8) (r : CommandRow) :
    r.acknowledge now response r.id =
      { r with status := .acknowledged, ackAt := some now, response := some response } := if_pos rfl

/-- A delivery changes nothing or moves a row from `Sent` to `Delivered`. -/
theorem CommandRow.deliver_cases (now id : Int) (r : CommandRow) :
    r.deliver now id = r ∨ r.id = id ∧ r.status = .sent ∧
      r.deliver now id = { r with status := .delivered, deliveredAt := some now } := by
  by_cases h : r.id = id ∧ r.status = .sent
  · exact .inr ⟨h.1, h.2, if_pos h⟩
  · exact .inl (if_neg h)

theorem CommandRow.acknowledge_cases (now : Int) (response : List UInt8) (id : Int)
    (r : CommandRow) : r.acknowledge now response id = r ∨ r.id = id ∧
      r.acknowledge now response id =
        { r with status := .acknowledged, ackAt := some now, response := some response } := by
  by_cases h : r.id = id
  · exact .inr ⟨h, if_pos h⟩
  · exact .inl (if_neg h)

end RudraNetra
