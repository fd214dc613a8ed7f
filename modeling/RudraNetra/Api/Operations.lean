/-
Fleet operations and billing: the mutating handlers of `internal/handler/handlers_ops.go`,
`internal/handler/legacy_handlers.go` and `internal/handler/handlers_admin.go` for parties,
loading receipts, trips of the fleet, vouchers, gate passes, tyres, invoices and complaints.
-/
import RudraNetra.Api.Server
import RudraNetra.Lib.GoTime

namespace RudraNetra.API

open SQL Effect

/-- `%04d` -/
def fourDigits (n : Int) : String :=
  let digits := toString n
  "".pushn '0' (4 - digits.length) ++ digits

/-! ### Parties -/

def createPartyHandler : Handler :=
  createRow [companyScope, bindWith (filled "name") "name is required"] .fleetParties
    (fun _ req =>
      [("name", some (.text (req.text "name"))),
        ("contact", nonEmpty (req.text "contact")),
        ("phone", nonEmpty (req.text "phone")),
        ("email", nonEmpty (req.text "email")),
        ("address", nonEmpty (req.text "address"))])
    "Party created"

def updatePartyHandler : Handler :=
  updateRow [companyScope, pathID "invalid party id", bindJSON] .fleetParties
    (fun _ req =>
      [keepText "name" (req.text "name"),
        keepText "contact" (req.text "contact"),
        keepText "phone" (req.text "phone"),
        keepText "email" (req.text "email"),
        keepText "address" (req.text "address")])
    "party not found for this organization" "Party updated"

/-! ### Loading receipts -/

def createLRHandler : Handler where
  checks := [companyScope, bindJSON]
  work := fun _ companyID _ req => do
    let vehicle ← selectFirst .vehicles <| Condition.selects
      [("reg_number", .text (req.text "vehicle")), ("company_id", .int companyID)]
    let party ← selectFirst .fleetParties fun row =>
      likeName "name" (req.text "party") row &&
        Condition.selects [("company_id", .int companyID)] row
    let newID ← insertReturning .loadingReceipts
      [("company_id", some (.int companyID)),
        ("party_id", (party.bind (intOf · "id")).map .int),
        ("vehicle_id", (vehicle.bind (intOf · "id")).map .int),
        ("lr_number", some (.text (req.text "lrNo"))),
        ("weight_kg", some (.real (req.real "weightKg"))),
        ("freight_amt", some (money (req.real "freightAmt"))),
        ("advance_amt", some (money (req.real "advanceAmt"))),
        ("status", some (.text "Pending"))]
    let lrNo := if req.text "lrNo" = "" then "LR-" ++ toString newID else req.text "lrNo"
    if req.text "lrNo" = "" then
      let _ ← attempt <| exec <| .update .loadingReceipts
        [setTo "lr_number" (some (.text lrNo))] [("id", .int newID)]
    return ⟨201, [("success", .bool true), ("id", .int newID), ("lrNo", .text lrNo),
      ("message", .text "Loading receipt created successfully")]⟩

def updateLRHandler : Handler :=
  updateRow [companyScope, pathID "invalid LR id", bindJSON] .loadingReceipts
    (fun _ req =>
      [keepText "status" (req.text "status"),
        keepPositiveReal "weight_kg" (req.real "weightKg"),
        keepPositiveMoney "freight_amt" (req.real "freightAmt"),
        keepPositiveMoney "advance_amt" (req.real "advanceAmt")])
    "loading receipt not found for this organization" "Loading receipt updated"

/-! ### Gate passes -/

/-- `name = $1 OR id::text = $1`, for the row with this id. -/
def idIs (text : String) (row : Row Datum) : Bool :=
  (intOf row "id").any fun id => toString id = text

def createGatePassHandler : Handler where
  checks := [companyScope, bindJSON]
  work := fun _ companyID _ req => do
    let vehicle ← selectFirst .vehicles fun row =>
      (Condition.selects [("reg_number", .text (req.text "vehicle"))] row ||
        idIs (req.text "vehicle") row) &&
        Condition.selects [("company_id", .int companyID)] row
    let driver ← selectFirst .drivers fun row =>
      (likeName "name" (req.text "driver") row || idIs ("%" ++ req.text "driver" ++ "%") row) &&
        Condition.selects [("company_id", .int companyID)] row
    let now ← now
    let newID ← insertReturning .gatePasses
      [("company_id", some (.int companyID)),
        ("vehicle_id", (vehicle.bind (intOf · "id")).map .int),
        ("driver_id", (driver.bind (intOf · "id")).map .int),
        ("pass_number", some (.text "")),
        ("destination", nonEmpty (req.text "destination")),
        ("purpose", nonEmpty (req.text "purpose")),
        ("status", some (.text "issued")),
        ("issued_at", some (.instant now))]
    let passNum := "GP-" ++ toString (Go.year now) ++ "-" ++ fourDigits (newID % 10000)
    let _ ← attempt <| exec <| .update .gatePasses
      [setTo "pass_number" (some (.text passNum))] [("id", .int newID)]
    return ⟨201, [("success", .bool true), ("id", .int newID), ("passNo", .text passNum),
      ("message", .text "Gate pass created successfully")]⟩

/-! ### Trips of the fleet and their vouchers -/

def createFleetTripHandler : Handler where
  checks := [companyScope, bindJSON]
  work := fun _ companyID _ req => do
    let now ← now
    let tripNum := "TRP-" ++ toString (Go.year now) ++ "-" ++ fourDigits (now % 10000)
    let balance := req.real "freightAmount" - req.real "advanceAmount"
    let newID ← insertReturning .fleetTrips
      [("company_id", some (.int companyID)),
        ("trip_no", some (.text tripNum)),
        ("vehicle_id", nonZero (req.int "vehicleId")),
        ("driver1_name", nonEmpty (req.text "driver1Name")),
        ("driver2_name", nonEmpty (req.text "driver2Name")),
        ("party_name", nonEmpty (req.text "partyName")),
        ("source", nonEmpty (req.text "source")),
        ("destination", nonEmpty (req.text "destination")),
        ("planned_start", (req.time "2006-01-02 15:04" "plannedStart").map .instant),
        ("planned_arrival", (req.time "2006-01-02 15:04" "plannedArrival").map .instant),
        ("freight_amount", some (money (req.real "freightAmount"))),
        ("advance_amount", some (money (req.real "advanceAmount"))),
        ("expense_amount", some (money 0)),
        ("balance_amount", some (money balance)),
        ("status", some (.text "In Transit"))]
    return ⟨201, [("success", .bool true), ("id", .int newID), ("tripNo", .text tripNum),
      ("message", .text "Fleet trip dispatched successfully")]⟩

/-- `CASE WHEN expense > 0 THEN freight_amount - advance_amount - expense ELSE balance_amount
END` -/
def balanceAfter (expense : ℚ) (row : Row Datum) : Option Datum :=
  if expense > 0 then do
    let freight ← realOf row "freight_amount"
    let advance ← realOf row "advance_amount"
    return money (freight - advance - expense)
  else row "balance_amount"

def updateFleetTripHandler : Handler :=
  updateRow [companyScope, pathID "invalid trip id", bindJSON] .fleetTrips
    (fun now req =>
      [keepText "status" (req.text "status"),
        keepPositiveMoney "expense_amount" (req.real "expenseAmount"),
        ("balance_amount", balanceAfter (req.real "expenseAmount")),
        touch now])
    "trip not found for this organization" "Fleet trip updated"

/-- `expense_amount + amount` -/
def addedExpense (amount : ℚ) (row : Row Datum) : Option Datum := do
  let expense ← realOf row "expense_amount"
  return money (expense + amount)

/-- `freight_amount - advance_amount - (expense_amount + amount)` -/
def reducedBalance (amount : ℚ) (row : Row Datum) : Option Datum := do
  let freight ← realOf row "freight_amount"
  let advance ← realOf row "advance_amount"
  let expense ← realOf row "expense_amount"
  return money (freight - advance - (expense + amount))

def createVoucherHandler : Handler where
  checks := [companyScope,
    bindWith (fun req => req.int "tripId" > 0 ∧ filled "voucherType" req ∧ req.real "amount" > 0)
      "tripId, voucherType and amount are required"]
  work := fun _ companyID _ req => do
    let newID ← transaction do
      let newID ← insertReturning .tripVouchers
        [("company_id", some (.int companyID)),
          ("trip_id", some (.int (req.int "tripId"))),
          ("voucher_type", some (.text (req.text "voucherType"))),
          ("amount", some (money (req.real "amount"))),
          ("bill_no", nonEmpty (req.text "billNo")),
          ("receipt_url", nonEmpty (req.text "receiptUrl")),
          ("notes", nonEmpty (req.text "notes"))]
      let _ ← exec <| .update .fleetTrips
        [("expense_amount", addedExpense (req.real "amount")),
          ("balance_amount", reducedBalance (req.real "amount")),
          touch (← now)]
        (ownRow (req.int "tripId") companyID)
      return newID
    return .created newID "Expense voucher recorded and deducted from trip ledger"

def createPartyRouteHandler : Handler :=
  createRow [companyScope, bindWith (filled "partyName") "partyName is required"] .partyRoutes
    (fun _ req =>
      [("party_name", some (.text (req.text "partyName"))),
        ("source", nonEmpty (req.text "source")),
        ("destination", nonEmpty (req.text "destination")),
        ("standard_km", some (.real (req.real "standardKm"))),
        ("standard_rate", some (money (req.real "standardRate"))),
        ("billing_rate", some (money (req.real "billingRate")))])
    "Party route contract registered"

/-! ### Tyres -/

/-- `NULLIF(x, 0)`, for a `NUMERIC` column. -/
def nonZeroMoney (x : ℚ) : Option Datum := if x = 0 then none else some (money x)

def createTyreHandler : Handler :=
  createRow [companyScope, bindWith (filled "tyreNumber") "tyreNumber is required"] .tyreRecords
    (fun _ req =>
      [("vehicle_id", nonZero (req.int "vehicleId")),
        ("serial_number", some (.text (req.text "tyreNumber"))),
        ("tyre_number", some (.text (req.text "tyreNumber"))),
        ("position", nonEmpty (req.text "axlePosition")),
        ("axle_position", nonEmpty (req.text "axlePosition")),
        ("brand", nonEmpty (req.text "brand")),
        ("model", nonEmpty (req.text "model")),
        ("size", nonEmpty (req.text "size")),
        ("tread_depth_mm", nonZeroMoney (req.real "treadDepthMm")),
        ("ply_rating", nonZero (req.int "plyRating")),
        ("status", coalesce (nonEmpty (req.text "status")) (.text "In Use")),
        ("opening_km", some (.int (req.int "openingKm"))),
        ("current_km", some (.int (req.int "openingKm"))),
        ("life_km_limit", nonZero (req.int "lifeKmLimit")),
        ("retreading_count", some (.int (req.int "retreadingCount")))])
    "Tyre serial asset registered in fleet registry"

def updateTyreHandler : Handler :=
  updateRow [companyScope, pathID "invalid tyre id", bindJSON] .tyreRecords
    (fun now req =>
      [keepText "axle_position" (req.text "axlePosition"),
        keepPositiveMoney "tread_depth_mm" (req.real "treadDepthMm"),
        keepText "status" (req.text "status"),
        keepUnless "retreading_count"
          (if req.int "retreadingCount" ≥ 0 then some (.int (req.int "retreadingCount"))
            else none),
        keepPositive "current_km" (req.int "currentKm"),
        touch now])
    "tyre not found for this organization" "Tyre inspection update saved"

def deleteTyreHandler : Handler :=
  deleteRow .tyreRecords "invalid tyre id" "Tyre scrapped and removed"

/-! ### Invoices -/

/-- `SELECT COALESCE(vat_percent, 0) FROM company_settings WHERE company_id = $1`, and zero if
that gives nothing. -/
def vatPercent (companyID : Int) : Api ℚ := do
  let settings ← selectFirst .companySettings <| Condition.selects [("company_id", .int companyID)]
  return (settings.bind (realOf · "vat_percent")).getD 0

/-- `SELECT COALESCE(MAX(id), 0) + 1 FROM invoices`, and zero if the query fails. -/
def nextInvoiceID : Api Int := do
  let rows ← attempt <| selectAll .invoices fun _ => true
  return match rows with
    | some rows => ((rows.filterMap (intOf · "id")).max?.getD 0) + 1
    | none => 0

def createInvoiceHandler : Handler where
  checks := [companyScope, bindJSON]
  work := fun r companyID _ req => do
    let targetCompany :=
      if r.session.role = "superadmin" ∧ req.int "companyId" > 0 then req.int "companyId"
      else companyID
    let now ← now
    let amount :=
      if req.real "amount" = 0 ∧ req.int "deviceCount" > 0 ∧ req.real "ratePerDevice" > 0 then
        req.int "deviceCount" * req.real "ratePerDevice"
      else req.real "amount"
    let tax ←
      if req.real "taxAmount" = 0 ∧ amount > 0 then do
        let vat ← vatPercent targetCompany
        pure (amount * vat / 100)
      else pure (req.real "taxAmount")
    let total := if req.real "totalAmount" = 0 then amount + tax else req.real "totalAmount"
    let status :=
      if (req.text "status").toLower = "" then "unpaid" else (req.text "status").toLower
    let invNumber ←
      if req.text "invoiceNo" = "" then do
        let nextID ← nextInvoiceID
        pure ("INV-" ++ toString (Go.year now) ++ "-" ++ fourDigits nextID)
      else pure (req.text "invoiceNo")
    let newID ← insertReturning .invoices
      [("company_id", some (.int targetCompany)),
        ("inv_number", some (.text invNumber)),
        ("inv_date", some ((req.date "invDate").getD (.instant now))),
        ("amount", some (money amount)),
        ("tax_amount", some (money tax)),
        ("total_amount", some (money total)),
        ("paid_amount", some (money (req.real "paidAmount"))),
        ("status", some (.text status)),
        ("due_date", req.date "dueDate"),
        ("plan", nonEmpty (req.text "plan")),
        ("device_count", nonZero (req.int "deviceCount")),
        ("rate_per_device", nonZeroMoney (req.real "ratePerDevice")),
        ("notes", nonEmpty (req.text "notes"))]
    return ⟨201, [("success", .bool true), ("id", .int newID), ("invoiceNo", .text invNumber),
      ("message", .text "Invoice created")]⟩

/-- `CURRENT_DATE` -/
def currentDate (now : Int) : Int := now - now % (86400 * 10 ^ 9)

def createBillingHandler : Handler where
  checks := [bindJSON,
    require (fun req => req.int "deviceCount" > 0 ∧ req.real "ratePerDevice" > 0)
      "deviceCount and ratePerDevice are required"]
  work := fun _ _ _ req => do
    let companyID ←
      if req.int "companyId" ≤ 0 ∧ req.text "companyName" ≠ "" then do
        let company ← selectFirst .companies (likeName "name" (req.text "companyName"))
        pure ((company.bind (intOf · "id")).getD (req.int "companyId"))
      else pure (req.int "companyId")
    if companyID ≤ 0 then throw (badRequest "companyId or a matching companyName is required")
    let vat ← vatPercent companyID
    let amount := req.int "deviceCount" * req.real "ratePerDevice"
    let tax := amount * vat / 100
    let nextID ← nextInvoiceID
    let now ← now
    let invNumber := "INV-" ++ toString (Go.year now) ++ "-" ++ fourDigits nextID
    let newID ← insertReturning .invoices
      [("company_id", some (.int companyID)),
        ("inv_number", some (.text invNumber)),
        ("inv_date", some (.instant (currentDate now))),
        ("amount", some (money amount)),
        ("tax_amount", some (money tax)),
        ("total_amount", some (money (amount + tax))),
        ("paid_amount", some (money 0)),
        ("status", some (.text "unpaid")),
        ("due_date", req.date "dueDate"),
        ("plan", nonEmpty (req.text "billingPlan")),
        ("device_count", some (.int (req.int "deviceCount"))),
        ("rate_per_device", some (money (req.real "ratePerDevice"))),
        ("notes", nonEmpty (req.text "notes"))]
    return ⟨201, [("success", .bool true), ("id", .int newID), ("invoiceNo", .text invNumber),
      ("message", .text "Tax invoice generated")]⟩

def updateInvoiceHandler : Handler :=
  updateRow [companyScope, pathID "invalid invoice id", bindJSON] .invoices
    (fun _ req =>
      [keepText "status" (req.text "status").toLower,
        keepPositiveMoney "paid_amount" (req.real "paidAmount"),
        keepUnless "due_date" (req.date "dueDate"),
        keepText "notes" (req.text "notes")])
    "invoice not found for this organization" "Invoice updated"

/-! ### Complaints -/

def createComplaintHandler : Handler where
  checks := [companyScope,
    bindWith (fun req => filled "title" req ∧ filled "category" req)
      "title and category are required"]
  work := fun _ companyID _ req => do
    let ticketNo := "TCK-" ++ toString ((← now) % 1000000)
    let newID ← insertReturning .complaints
      [("company_id", some (.int companyID)),
        ("ticket_no", some (.text ticketNo)),
        ("vehicle_id", nonZero (req.int "vehicleId")),
        ("title", some (.text (req.text "title"))),
        ("category", some (.text (req.text "category"))),
        ("priority", coalesce (nonEmpty (req.text "priority")) (.text "Medium")),
        ("status", some (.text "Open"))]
    return ⟨201, [("success", .bool true), ("id", .int newID), ("ticketNo", .text ticketNo),
      ("message",
        .text "Support ticket created. Support team will inspect within SLA.")]⟩

def updateComplaintHandler : Handler :=
  updateRow [companyScope, pathID "invalid ticket id", bindJSON] .complaints
    (fun now req =>
      [keepText "status" (req.text "status"),
        keepText "technician_assigned" (req.text "technicianAssigned"),
        keepText "resolution_notes" (req.text "resolutionNotes"),
        touch now])
    "ticket not found for this organization" "Support ticket updated"

end RudraNetra.API
