/-
Reminders: `listRemindersHandler` of `internal/handler/legacy_handlers.go` and `reportReminders` of
`internal/handler/handlers_admin.go`.

A date is a number of days since the Unix epoch, and the session of the database is in UTC.
Both queries order the reminders by the due date alone, so those of one date come in any order.
-/
import RudraNetra.Api.Status
import RudraNetra.Lib.GoHours

namespace RudraNetra

/-- A row of `reminders`. -/
structure ReminderRecord where
  id : Int
  companyID : Int
  vehicleID : Option Int
  reminderType : String
  dueDate : Int
  dueKM : Option Int
  alertBeforeDays : Option Int
  alertBeforeKM : Option Int
  notes : Option String
  isAcknowledged : Option Bool

structure ReminderTables extends Fleet where
  reminders : List ReminderRecord

/-- A query for the reminders of a company, which has them in an order of its own. -/
structure ReminderTables.Query (tables : ReminderTables) (companyID : Int) where
  rows : List ReminderRecord
  rows_perm : rows.Perm (tables.reminders.filter (·.companyID = companyID))
  ordered : rows.Pairwise fun r s => r.dueDate ≤ s.dueDate

inductive ReminderStatus where
  | acknowledged
  | expired
  | dueSoon
  | valid
  deriving DecidableEq

def ReminderStatus.name : ReminderStatus → String
  | acknowledged => "Acknowledged"
  | expired => "Expired"
  | dueSoon => "Due Soon"
  | valid => "Valid"

/-- `LEFT JOIN vehicles v ON r.vehicle_id = v.id` -/
def ReminderTables.vehicleReg (tables : ReminderTables) (r : ReminderRecord) : String :=
  ((tables.vehicles.find? fun v => r.vehicleID = some v.id).map (·.regNumber)).getD ""

/-! ### The list -/

structure ReminderResp where
  id : Int
  vehicleID : Int
  vehicleReg : String
  reminderType : String
  dueDate : Int
  dueKM : Int
  alertBeforeDays : Int
  alertBeforeKM : Int
  notes : String
  isAcknowledged : Bool
  status : String
  daysRemaining : Int

/-- The status by the lead time of the reminder. -/
def listedStatus (isAcknowledged : Bool) (daysRemaining alertBeforeDays : Int) : ReminderStatus :=
  if isAcknowledged then .acknowledged
  else if daysRemaining < 0 then .expired
  else if alertBeforeDays > 0 ∧ daysRemaining ≤ alertBeforeDays then .dueSoon
  else .valid

/-- A row of the list. -/
def ReminderTables.listed (tables : ReminderTables) (now : Int) (r : ReminderRecord) :
    ReminderResp :=
  let alertBeforeDays := r.alertBeforeDays.getD 0
  let isAcknowledged := r.isAcknowledged.getD false
  -- The date is scanned as the start of the day.
  let dueDate := r.dueDate * Go.day
  let daysRemaining := Go.wholeDays (Go.sub dueDate now)
  { id := r.id
    vehicleID := r.vehicleID.getD 0
    vehicleReg := tables.vehicleReg r
    reminderType := r.reminderType
    dueDate := r.dueDate
    dueKM := r.dueKM.getD 0
    alertBeforeDays := alertBeforeDays
    alertBeforeKM := r.alertBeforeKM.getD 0
    notes := r.notes.getD ""
    isAcknowledged := isAcknowledged
    status := (listedStatus isAcknowledged daysRemaining alertBeforeDays).name
    daysRemaining := daysRemaining }

def listRemindersHandler {tables : ReminderTables} {companyID : Int} (now : Int)
    (query : tables.Query companyID) : List ReminderResp :=
  query.rows.map (tables.listed now)

/-! ### The report -/

structure ReminderRow where
  vehicleReg : String
  reminderType : String
  dueDate : Int
  daysRemaining : Int
  status : String

def maxReportRows : Nat := 500

/-- The status by a lead time of 15 days. -/
def reportedStatus (ack : Bool) (days : Int) : ReminderStatus :=
  if ack then .acknowledged
  else if days < 0 then .expired
  else if days ≤ 15 then .dueSoon
  else .valid

/-- A row of the report; one whose flag is `NULL` does not scan. -/
def ReminderTables.reported (tables : ReminderTables) (now : Int) (r : ReminderRecord) :
    Option ReminderRow :=
  r.isAcknowledged.map fun ack =>
    -- `r.due_date - CURRENT_DATE`
    let days := r.dueDate - now / Go.day
    { vehicleReg := tables.vehicleReg r
      reminderType := r.reminderType
      dueDate := r.dueDate
      daysRemaining := days
      status := (reportedStatus ack days).name }

/-- The report; a row that does not scan closes the rows, and there is none. -/
def reportReminders {tables : ReminderTables} {companyID : Int} (now : Int)
    (query : tables.Query companyID) : Option (List ReminderRow) :=
  (query.rows.take maxReportRows).mapM (tables.reported now)

end RudraNetra
