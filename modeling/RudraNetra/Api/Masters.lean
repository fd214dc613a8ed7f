/-
Requests for lookup masters, statement by statement: `createMasterHandler` and
`updateMasterHandler` of `internal/handler/legacy_handlers.go`, cut before every statement.

A request that is to make its row the default first takes the default away from the rows of the
category, in a statement of its own.  The desk of the masters runs the statements of any number
of requests in any order, each in circumstances of its own.
-/
import RudraNetra.Api.Office
import RudraNetra.Lib.Machine

namespace RudraNetra.API

open SQL Effect

/-- The last statement of a request. -/
inductive MasterWrite where
  | insert (companyID : Int) (category : String) (req : Fields)
  | update (id : Int) (req : Fields)

def MasterWrite.fields : MasterWrite → Fields
  | .insert _ _ req => req
  | .update _ req => req

/-- Whether its row is to be the default. -/
def MasterWrite.isDefault (write : MasterWrite) : Bool := write.fields.flag "isDefault" = some true

/-- The columns of a new master. -/
def masterColumns (companyID : Int) (category : String) (req : Fields) : Columns :=
  [("company_id", if companyID > 0 then some (.int companyID) else none),
    ("category", some (.text category)),
    ("code", some (.text (req.text "code"))),
    ("name", some (.text (req.text "name"))),
    ("is_default", some (.bool ((req.flag "isDefault").getD false)))]

def MasterWrite.run : MasterWrite → Api Response
  | .insert companyID category req => do
    let newID ← insertReturning .lookupMasters (masterColumns companyID category req)
    return .created newID "Master record created"
  | .update id req => do
    let affected ← exec <| .update .lookupMasters (masterAssignments req) [("id", .int id)]
    if affected = 0 then throw (notFound "master record not found")
    return .ok "Master record updated"

/-- What a request is to do next. -/
inductive MasterPhase where
  /-- Ask for the category of the row that is to be the default. -/
  | lookup (id : Int) (req : Fields)
  /-- Take the default away from the category. -/
  | clear (category : String) (last : MasterWrite)
  | write (last : MasterWrite)

/-- The statement of a phase, and the next phase or the answer. -/
def MasterPhase.next : MasterPhase → Api (MasterPhase ⊕ Response)
  | .lookup id req => do
    let row ← selectFirst .lookupMasters <| Condition.selects [("id", .int id)]
    match row.bind (textOf · "category") with
    | some category => return .inl (.clear category (.update id req))
    | none => return .inl (.write (.update id req))
  | .clear category last => do
    clearDefaults category
    return .inl (.write last)
  | .write last => do
    let answer ← last.run
    return .inr answer

/-- A request for a master. -/
inductive MasterRequest where
  | create
  | update

def MasterRequest.handler : MasterRequest → Handler
  | .create => createMasterHandler
  | .update => updateMasterHandler

/-- The phase that a request which passes the checks begins with. -/
def MasterRequest.first (kind : MasterRequest) (r : Request) : MasterPhase :=
  match kind with
  | .create =>
    let write := MasterWrite.insert (getEffectiveCompanyID r) r.type r.fields
    if write.isDefault then .clear r.type write else .write write
  | .update =>
    let id := r.id.getD 0
    if r.fields.flag "isDefault" = some true then .lookup id r.fields
    else .write (.update id r.fields)

/-- The checks of a request. -/
def MasterRequest.start (kind : MasterRequest) (r : Request) : Api MasterPhase := do
  if !(← get).pool then throw (.failure 503 "database unavailable")
  match kind.handler.refuses r with
  | some error => throw error
  | none => return kind.first r

/-! ### The desk -/

/-- The database, and the requests in flight. -/
structure MasterDesk where
  db : SQL.Database schema Datum
  serial : Table → Int
  phases : Nat → Option MasterPhase

inductive MasterEvent where
  /-- A request comes in, under a new key. -/
  | start (key : Nat) (kind : MasterRequest) (r : Request) (circumstances : Server)
  /-- The next statement of the request with this key. -/
  | next (key : Nat) (circumstances : Server)

/-- The server that a statement finds. -/
def MasterDesk.found (desk : MasterDesk) (circumstances : Server) : Server :=
  { circumstances with db := desk.db, serial := desk.serial }

/-- The desk once a statement has left the server in a state. -/
def MasterDesk.left (desk : MasterDesk) (s : Server) (key : Nat) (phase : Option MasterPhase) :
    MasterDesk :=
  ⟨s.db, s.serial, Function.update desk.phases key phase⟩

def MasterDesk.step (desk : MasterDesk) : MasterEvent → Option MasterDesk
  | .start key kind r circumstances =>
    if (desk.phases key).isNone then
      match outcome (kind.start r) (desk.found circumstances) with
      | (.ok phase, s) => some (desk.left s key (some phase))
      | (.error _, s) => some (desk.left s key none)
    else none
  | .next key circumstances =>
    match desk.phases key with
    | none => none
    | some phase =>
      match outcome phase.next (desk.found circumstances) with
      | (.ok (.inl later), s) => some (desk.left s key (some later))
      | (.ok (.inr _), s) => some (desk.left s key none)
      | (.error _, s) => some (desk.left s key none)

def masterDesk (opening : MasterDesk) : Machine MasterDesk MasterEvent := ⟨opening, MasterDesk.step⟩

end RudraNetra.API
