/-
Document numbers: the handlers of `internal/handler` that make one, cut where it matters that
other requests come in between.

A gate pass is added and numbered after that.  A trip and a ticket take their number from
the clock, and an invoice from the invoices there are; they are added after that.  So a
request leaves a draft between its two halves, and the desk runs the halves of any number
of requests in any order.  The queries that only fill in a reference stay with the
statement after them: no number depends on when they are made.
-/
import RudraNetra.Api.Routes
import RudraNetra.Lib.Machine

namespace RudraNetra.API

open SQL Effect

/-- What a number is made from. -/
inductive Origin where
  /-- The id of a gate pass. -/
  | pass (id : Int)
  /-- The clock, for a trip. -/
  | trip (nanoseconds : Int)
  /-- The clock, for a complaint. -/
  | ticket (nanoseconds : Int)
  /-- The invoices there were, if they could be read. -/
  | invoice (read : Option (List (Row Datum)))

/-- The id after the highest one; zero if the query failed. -/
def nextNumber : Option (List (Row Datum)) → Int
  | some rows => ((rows.filterMap (intOf · "id")).max?.getD 0) + 1
  | none => 0

/-- The number that is made in a year. -/
def Origin.number (year : Int) : Origin → String
  | .pass id => "GP-" ++ toString year ++ "-" ++ fourDigits (id % 10000)
  | .trip nanoseconds => "TRP-" ++ toString year ++ "-" ++ fourDigits (nanoseconds % 10000)
  | .ticket nanoseconds => "TCK-" ++ toString (nanoseconds % 1000000)
  | .invoice read => "INV-" ++ toString year ++ "-" ++ fourDigits (nextNumber read)

structure Document where
  origin : Origin
  number : String

/-- A document made in a year. -/
def Document.make (year : Int) (origin : Origin) : Document := ⟨origin, origin.number year⟩

/-- What a request has come to in its first half. -/
inductive Draft where
  /-- A gate pass that is added, and not yet numbered. -/
  | gatePass (newID : Int)
  /-- A row to insert, the document whose number was made for it, and the answer. -/
  | insert (document : Option Document) (t : Table) (columns : Columns) (answer : Int → Response)

/-- The document of a draft that is finished at a time. -/
def Draft.document (now : Int) : Draft → Option Document
  | .gatePass newID => some (.make (Go.year now) (.pass newID))
  | .insert document .. => document

/-- The second half of a request. -/
def Draft.finish : Draft → Api Response
  | .gatePass newID => do
    let passNum := (Origin.pass newID).number (Go.year (← now))
    let _ ← attempt <| exec <| .update .gatePasses
      [setTo "pass_number" (some (.text passNum))] [("id", .int newID)]
    return ⟨201, [("success", .bool true), ("id", .int newID), ("passNo", .text passNum),
      ("message", .text "Gate pass created successfully")]⟩
  | .insert _ t columns answer => do
    let newID ← insertReturning t columns
    return answer newID

/-! ### First halves -/

def draftGatePass (companyID : Int) (req : Fields) : Api Draft := do
  let vehicle ← selectFirst .vehicles fun row =>
    (Condition.selects [("reg_number", .text (req.text "vehicle"))] row ||
      idIs (req.text "vehicle") row) &&
      Condition.selects [("company_id", .int companyID)] row
  let driver ← selectFirst .drivers fun row =>
    (likeName "name" (req.text "driver") row || idIs ("%" ++ req.text "driver" ++ "%") row) &&
      Condition.selects [("company_id", .int companyID)] row
  let now ← now
  let newID ← insertReturning .gatePasses
    [("company_id", some (.int companyID)),
      ("vehicle_id", (vehicle.bind (intOf · "id")).map .int),
      ("driver_id", (driver.bind (intOf · "id")).map .int),
      ("pass_number", some (.text "")),
      ("destination", nonEmpty (req.text "destination")),
      ("purpose", nonEmpty (req.text "purpose")),
      ("status", some (.text "issued")),
      ("issued_at", some (.instant now))]
  return .gatePass newID

def draftFleetTrip (companyID : Int) (req : Fields) : Api Draft := do
  let now ← now
  let trip := Document.make (Go.year now) (.trip now)
  return .insert (some trip) .fleetTrips
    [("company_id", some (.int companyID)),
      ("trip_no", some (.text trip.number)),
      ("vehicle_id", nonZero (req.int "vehicleId")),
      ("driver1_name", nonEmpty (req.text "driver1Name")),
      ("driver2_name", nonEmpty (req.text "driver2Name")),
      ("party_name", nonEmpty (req.text "partyName")),
      ("source", nonEmpty (req.text "source")),
      ("destination", nonEmpty (req.text "destination")),
      ("planned_start", (req.time "2006-01-02 15:04" "plannedStart").map .instant),
      ("planned_arrival", (req.time "2006-01-02 15:04" "plannedArrival").map .instant),
      ("freight_amount", some (money (req.real "freightAmount"))),
      ("advance_amount", some (money (req.real "advanceAmount"))),
      ("expense_amount", some (money 0)),
      ("balance_amount", some (money (req.real "freightAmount" - req.real "advanceAmount"))),
      ("status", some (.text "In Transit"))]
    fun newID => ⟨201, [("success", .bool true), ("id", .int newID),
      ("tripNo", .text trip.number), ("message", .text "Fleet trip dispatched successfully")]⟩

def draftComplaint (companyID : Int) (req : Fields) : Api Draft := do
  let now ← now
  let ticket := Document.make (Go.year now) (.ticket now)
  return .insert (some ticket) .complaints
    [("company_id", some (.int companyID)),
      ("ticket_no", some (.text ticket.number)),
      ("vehicle_id", nonZero (req.int "vehicleId")),
      ("title", some (.text (req.text "title"))),
      ("category", some (.text (req.text "category"))),
      ("priority", coalesce (nonEmpty (req.text "priority")) (.text "Medium")),
      ("status", some (.text "Open"))]
    fun newID => ⟨201, [("success", .bool true), ("id", .int newID),
      ("ticketNo", .text ticket.number),
      ("message",
        .text "Support ticket created. Support team will inspect within SLA.")]⟩

/-- The invoices there are, if the query does not fail. -/
def readInvoices : Api (Option (List (Row Datum))) := attempt <| selectAll .invoices fun _ => true

def draftInvoice (role : String) (companyID : Int) (req : Fields) : Api Draft := do
  let targetCompany :=
    if role = "superadmin" ∧ req.int "companyId" > 0 then req.int "companyId" else companyID
  let now ← now
  let amount :=
    if req.real "amount" = 0 ∧ req.int "deviceCount" > 0 ∧ req.real "ratePerDevice" > 0 then
      req.int "deviceCount" * req.real "ratePerDevice"
    else req.real "amount"
  let tax ←
    if req.real "taxAmount" = 0 ∧ amount > 0 then do
      let vat ← vatPercent targetCompany
      pure (amount * vat / 100)
    else pure (req.real "taxAmount")
  let total := if req.real "totalAmount" = 0 then amount + tax else req.real "totalAmount"
  let status :=
    if (req.text "status").toLower = "" then "unpaid" else (req.text "status").toLower
  let invoice ←
    if req.text "invoiceNo" = "" then do
      let read ← readInvoices
      pure (some (Document.make (Go.year now) (.invoice read)))
    else pure none
  let invNumber := (invoice.map (·.number)).getD (req.text "invoiceNo")
  return .insert invoice .invoices
    [("company_id", some (.int targetCompany)),
      ("inv_number", some (.text invNumber)),
      ("inv_date", some ((req.date "invDate").getD (.instant now))),
      ("amount", some (money amount)),
      ("tax_amount", some (money tax)),
      ("total_amount", some (money total)),
      ("paid_amount", some (money (req.real "paidAmount"))),
      ("status", some (.text status)),
      ("due_date", req.date "dueDate"),
      ("plan", nonEmpty (req.text "plan")),
      ("device_count", nonZero (req.int "deviceCount")),
      ("rate_per_device", nonZeroMoney (req.real "ratePerDevice")),
      ("notes", nonEmpty (req.text "notes"))]
    fun newID => ⟨201, [("success", .bool true), ("id", .int newID),
      ("invoiceNo", .text invNumber), ("message", .text "Invoice created")]⟩

def draftBilling (req : Fields) : Api Draft := do
  let companyID ←
    if req.int "companyId" ≤ 0 ∧ req.text "companyName" ≠ "" then do
      let company ← selectFirst .companies (likeName "name" (req.text "companyName"))
      pure ((company.bind (intOf · "id")).getD (req.int "companyId"))
    else pure (req.int "companyId")
  if companyID ≤ 0 then throw (badRequest "companyId or a matching companyName is required")
  let vat ← vatPercent companyID
  let amount := req.int "deviceCount" * req.real "ratePerDevice"
  let tax := amount * vat / 100
  let read ← readInvoices
  let now ← now
  let invoice := Document.make (Go.year now) (.invoice read)
  return .insert (some invoice) .invoices
    [("company_id", some (.int companyID)),
      ("inv_number", some (.text invoice.number)),
      ("inv_date", some (.instant (currentDate now))),
      ("amount", some (money amount)),
      ("tax_amount", some (money tax)),
      ("total_amount", some (money (amount + tax))),
      ("paid_amount", some (money 0)),
      ("status", some (.text "unpaid")),
      ("due_date", req.date "dueDate"),
      ("plan", nonEmpty (req.text "billingPlan")),
      ("device_count", some (.int (req.int "deviceCount"))),
      ("rate_per_device", some (money (req.real "ratePerDevice"))),
      ("notes", nonEmpty (req.text "notes"))]
    fun newID => ⟨201, [("success", .bool true), ("id", .int newID),
      ("invoiceNo", .text invoice.number), ("message", .text "Tax invoice generated")]⟩

/-! ### The desk -/

/-- A request for a document. -/
inductive Creation where
  | gatePass
  | fleetTrip
  | complaint
  | invoice
  | billing

def Creation.handler : Creation → Handler
  | .gatePass => createGatePassHandler
  | .fleetTrip => createFleetTripHandler
  | .complaint => createComplaintHandler
  | .invoice => createInvoiceHandler
  | .billing => adminRoute createBillingHandler

def Creation.draft (kind : Creation) (r : Request) (companyID : Int) (req : Fields) : Api Draft :=
  match kind with
  | .gatePass => draftGatePass companyID req
  | .fleetTrip => draftFleetTrip companyID req
  | .complaint => draftComplaint companyID req
  | .invoice => draftInvoice r.session.role companyID req
  | .billing => draftBilling req

/-- The first half of a request, with the checks. -/
def Creation.start (kind : Creation) (r : Request) : Api Draft := do
  if !(← get).pool then throw (.failure 503 "database unavailable")
  match kind.handler.refuses r with
  | some error => throw error
  | none => kind.draft r (getEffectiveCompanyID r) r.fields

/-- The database, the requests in flight, and the documents issued. -/
structure Desk where
  db : SQL.Database schema Datum
  serial : Table → Int
  drafts : Nat → Option Draft
  issued : List Document

inductive DeskEvent where
  /-- The first half of a request, under a new key. -/
  | start (key : Nat) (kind : Creation) (r : Request) (circumstances : Server)
  /-- The second half of the request with this key. -/
  | finish (key : Nat) (circumstances : Server)

/-- The server that half a request finds. -/
def Desk.found (desk : Desk) (circumstances : Server) : Server :=
  { circumstances with db := desk.db, serial := desk.serial }

/-- The desk once half a request has left the server in a state. -/
def Desk.left (desk : Desk) (s : Server) (key : Nat) (draft : Option Draft) : Desk :=
  { desk with db := s.db, serial := s.serial, drafts := Function.update desk.drafts key draft }

def Desk.step (year : Int) (desk : Desk) : DeskEvent → Option Desk
  | .start key kind r circumstances =>
    if (desk.drafts key).isNone ∧ Go.year circumstances.now = year then
      match outcome (kind.start r) (desk.found circumstances) with
      | (.ok draft, s) => some (desk.left s key (some draft))
      | (.error _, s) => some (desk.left s key none)
    else none
  | .finish key circumstances =>
    match desk.drafts key with
    | none => none
    | some draft =>
      if Go.year circumstances.now = year then
        match outcome draft.finish (desk.found circumstances) with
        | (.ok _, s) => some { desk.left s key none with
            issued := desk.issued ++ (draft.document circumstances.now).toList }
        | (.error _, s) => some (desk.left s key none)
      else none

/-- A year at the desk. -/
def desk (year : Int) (opening : Desk) : Machine Desk DeskEvent := ⟨opening, Desk.step year⟩

end RudraNetra.API
