/-
Requests and how they are served: `internal/handler/handlers.go` and the statements that
handlers send.

A statement fails if a constraint refuses it, and for reasons outside the tables: a lost
connection, a text too long for its column, a number out of range.  `faults` says of the
coming statements which ones fail so.  Inside a transaction a failed statement makes every
later one fail, and the commit with them.

Every handler starts with checks that need no database; a request that fails one is
answered with an error at once.  `Fields` is a bound JSON body: the value of each field
at the type the handler declares for it, and the zero value for a field that is absent.
-/
import RudraNetra.Api.Schema
import RudraNetra.Ingest.Commands
import RudraNetra.Lib.Effect

namespace RudraNetra.API

open SQL Effect

/-- A JSON answer: its status code and its fields. -/
structure Response where
  status : Nat
  fields : List (String × Datum)
  deriving DecidableEq

def Response.failure (status : Nat) (error : String) : Response :=
  ⟨status, [("success", .bool false), ("error", .text error)]⟩

def badRequest (message : String) : Response := .failure 400 message

def notFound (message : String) : Response := .failure 404 message

/-- The answer of `serverError`; the error text is the driver's. -/
def serverError : Response := ⟨500, [("success", .bool false)]⟩

def Response.ok (message : String) : Response :=
  ⟨200, [("success", .bool true), ("message", .text message)]⟩

def Response.created (id : Int) (message : String) : Response :=
  ⟨201, [("success", .bool true), ("id", .int id), ("message", .text message)]⟩

/-- A command handed to the ingestion tier. -/
structure PublishedCommand where
  imei : Option Datum
  commandID : Int
  command : String
  deriving DecidableEq

/-- Password hashing; a hash is salted, so it is not a function of the password. -/
structure Bcrypt where
  verify : String → String → Bool
  hash : String → Option String

/-- The server's dependencies, and what they hold. -/
structure Server where
  db : SQL.Database schema Datum
  /-- The next value of each table's sequence. -/
  serial : Table → Int
  /-- Nanoseconds since the Unix epoch. -/
  now : Int
  faults : List Bool
  /-- Whether a transaction is open, and whether a statement of it has failed. -/
  tx : Option Bool
  published : List PublishedCommand
  /-- Whether there is a database pool. -/
  pool : Bool
  /-- Whether there is a Redis client. -/
  redis : Bool
  bcrypt : Bcrypt
  /-- `ST_Contains` of PostGIS, for a zone and a longitude and latitude. -/
  contains : Datum → ℚ → ℚ → Bool
  /-- What the random source yields next, in hexadecimal. -/
  random : String

abbrev Api : Type → Type := Program Server Response

/-! ### Statements -/

/-- The server after a statement that failed. -/
def Server.fail (s : Server) : Server :=
  { s with faults := s.faults.tail, tx := s.tx.map fun _ => true }

/-- Sends a statement; the number of affected rows. -/
def Server.submit (s : Server) (stmt : SQL.Statement Table Datum) : Option Nat × Server :=
  if s.tx = some true ∨ s.faults.head? = some true then (none, s.fail)
  else
    match s.db.exec stmt with
    | some (db, affected) => (some affected, { s with db, faults := s.faults.tail })
    | none => (none, s.fail)

/-- Runs a statement, and answers with a server error if it fails. -/
def exec (stmt : SQL.Statement Table Datum) : Api Nat :=
  ofOutcome fun s =>
    match s.submit stmt with
    | (some affected, s) => (.ok affected, s)
    | (none, s) => (.error serverError, s)

/-- `INSERT ... RETURNING id` -/
def insertReturning (t : Table) (columns : Columns) : Api Int :=
  ofOutcome fun s =>
    let id := s.serial t
    let s := { s with serial := Function.update s.serial t (id + 1) }
    match s.submit (.insert t (t.row s.now (("id", some (.int id)) :: columns))) with
    | (some _, s) => (.ok id, s)
    | (none, s) => (.error serverError, s)

/-- `INSERT ... ON CONFLICT (key) DO UPDATE SET ... RETURNING id` -/
def insertOrUpdateReturning (t : Table) (columns : Columns) (key : List String)
    (set : List Assignment) : Api Int :=
  ofOutcome fun s =>
    let id := s.serial t
    let s := { s with serial := Function.update s.serial t (id + 1) }
    let row := t.row s.now (("id", some (.int id)) :: columns)
    match s.submit (.insertOrUpdate t row key set) with
    | (some _, s) =>
      (.ok ((((s.db.tables t).find? (Agree key row ·)).bind (intOf · "id")).getD id), s)
    | (none, s) => (.error serverError, s)

/-- The first row of a `SELECT`; nothing if there is no row or the query fails. -/
def selectFirst (t : Table) (cond : Row Datum → Bool) : Api (Option (Row Datum)) :=
  ofOutcome fun s =>
    if s.tx = some true ∨ s.faults.head? = some true then (.ok none, s.fail)
    else (.ok ((s.db.tables t).find? cond), { s with faults := s.faults.tail })

/-- The rows of a `SELECT`. -/
def selectAll (t : Table) (cond : Row Datum → Bool) : Api (List (Row Datum)) :=
  ofOutcome fun s =>
    if s.tx = some true ∨ s.faults.head? = some true then (.error serverError, s.fail)
    else (.ok ((s.db.tables t).filter cond), { s with faults := s.faults.tail })

def now : Api Int := do return (← get).now

/-- Begins a transaction, runs its body, and commits; any error rolls it back. -/
def transaction {α : Type} (body : Api α) : Api α :=
  ofOutcome fun s =>
    if s.faults.head? = some true then (.error serverError, s.fail)
    else
      match outcome body { s with faults := s.faults.tail, tx := some false } with
      | (.error e, s') => (.error e, { s' with db := s.db, tx := none })
      | (.ok a, s') =>
        if s'.tx = some true ∨ s'.faults.head? = some true then
          (.error serverError, { s' with db := s.db, tx := none, faults := s'.faults.tail })
        else (.ok a, { s' with tx := none, faults := s'.faults.tail })

/-- Publishes a command on Redis; whether it was taken. -/
def publish (command : PublishedCommand) : Api Bool :=
  ofOutcome fun s =>
    if !s.redis then (.ok false, s)
    else if s.faults.head? = some true then (.ok false, { s with faults := s.faults.tail })
    else
      (.ok true, { s with published := s.published ++ [command], faults := s.faults.tail })

/-! ### Requests -/

/-- What the JWT middleware puts into the context. -/
structure Session where
  userID : Int
  companyID : Int
  username : String
  role : String

/-- A bound JSON body. -/
structure Fields where
  text : String → String
  int : String → Int
  real : String → ℚ
  flag : String → Option Bool
  ints : String → Option (List Int)
  texts : String → List String
  /-- What `time.Parse` makes of a text field with a layout. -/
  time : String → String → Option Int
  /-- The JSON of a field of any type, absent for `null`. -/
  json : String → Option String
  /-- The `coordinates` of a zone. -/
  coordinates : List (ℚ × ℚ)
  /-- A GeoJSON text as an object: its `type`, and the JSON of its `geometry` if that is one. -/
  geoJSON : String → Option (String × Option String)

/-- The body of which every field is absent. -/
def Fields.empty : Fields where
  text := fun _ => ""
  int := fun _ => 0
  real := fun _ => 0
  flag := fun _ => none
  ints := fun _ => none
  texts := fun _ => []
  time := fun _ _ => none
  json := fun _ => none
  coordinates := []
  geoJSON := fun _ => none

/-- A text field as a date. -/
def Fields.date (fields : Fields) (field : String) : Option Datum :=
  (fields.time "2006-01-02" field).map .instant

/-- A request that passed the middleware. -/
structure Request where
  session : Session
  /-- The `:id` of the path, if it is an integer. -/
  id : Option Int
  /-- The `:type` of the path. -/
  type : String
  /-- The `company_id` of the query, if it is an integer. -/
  companyID : Option Int
  /-- The body, or why it does not bind. -/
  body : Except String Fields

/-- The fields of the body; a body that does not bind has none. -/
def Request.fields (r : Request) : Fields := r.body.toOption.getD .empty

/-- The tenant scope: superadmins may name a tenant, others have that of their token. -/
def getEffectiveCompanyID (r : Request) : Int :=
  match r.companyID with
  | some id =>
    if (r.session.role = "superadmin" ∨ r.session.companyID = 0) ∧ id > 0 then id
    else r.session.companyID
  | none => r.session.companyID

/-! ### Checks -/

/-- A check: the error to answer with, if the request fails it. -/
abbrev Check : Type := Request → Option Response

def companyScope : Check := fun r =>
  if getEffectiveCompanyID r ≤ 0 then
    some (badRequest
      "company scope is required: authenticate with a tenant user or pass company_id")
  else none

/-- `strconv.ParseInt(c.Param("id"), 10, 64)` -/
def pathID (message : String) : Check := fun r =>
  if r.id = none then some (badRequest message) else none

/-- `c.ShouldBindJSON(&req)`, with the binder's error as the message. -/
def bindJSON : Check := fun r =>
  match r.body with
  | .error message => some (badRequest message)
  | .ok _ => none

/-- `c.ShouldBindJSON(&req)` together with a condition on the fields. -/
def bindWith (ok : Fields → Bool) (message : String) : Check := fun r =>
  match r.body with
  | .error _ => some (badRequest message)
  | .ok fields => if ok fields then none else some (badRequest message)

/-- A condition on the bound fields. -/
def require (ok : Fields → Bool) (message : String) : Check := fun r =>
  if ok r.fields then none else some (badRequest message)

/-- The field is more than white space. -/
def filled (field : String) (fields : Fields) : Bool := !isBlank (fields.text field)

/-! ### Handlers -/

/-- A handler: its checks, and what it does with the company, the id and the fields of a
request that passes them. -/
structure Handler where
  checks : List Check
  work : Request → Int → Int → Fields → Api Response

/-- The error of the first check that fails. -/
def Handler.refuses (h : Handler) (r : Request) : Option Response := h.checks.findSome? (· r)

def Handler.serve (h : Handler) (r : Request) : Api Response := do
  if !(← get).pool then throw (.failure 503 "database unavailable")
  match h.refuses r with
  | some error => throw error
  | none => h.work r (getEffectiveCompanyID r) (r.id.getD 0) r.fields

/-- `WHERE id = $n AND company_id = $m` -/
def ownRow (id companyID : Int) : Condition Datum :=
  [("id", .int id), ("company_id", .int companyID)]

/-- `INSERT INTO t (company_id, ...) VALUES (...) RETURNING id` -/
def createRow (checks : List Check) (t : Table) (columns : Int → Fields → Columns)
    (message : String) : Handler where
  checks := checks
  work := fun _ companyID _ req => do
    let id ← insertReturning t
      (("company_id", some (.int companyID)) :: columns (← now) req)
    return .created id message

/-- `UPDATE t SET ... WHERE id = $n AND company_id = $m` -/
def updateRow (checks : List Check) (t : Table) (assignments : Int → Fields → List Assignment)
    (missing message : String) : Handler where
  checks := checks
  work := fun _ companyID id req => do
    let affected ← exec (.update t (assignments (← now) req) (ownRow id companyID))
    if affected = 0 then throw (notFound missing)
    return .ok message

/-- `DELETE FROM t WHERE id = $n AND company_id = $m` -/
def deleteRow (t : Table) (invalid message : String) : Handler where
  checks := [companyScope, pathID invalid]
  work := fun _ companyID id _ => do
    let _ ← exec (.delete t (ownRow id companyID))
    return .ok message

end RudraNetra.API
