/-
Logging in and signing up: `internal/service/auth_service.go` and the public handlers of
`internal/handler/handlers.go`.

`authenticate` and `register` answer with an error text, of which the part that comes from
the database or the library is left out.  The handlers are split in two: what comes to tokens
for a user, and the answer with them.
-/
import RudraNetra.Api.Tokens

namespace RudraNetra.API

open SQL Effect

/-- `user.ExpiresAt != nil && time.Now().After(*user.ExpiresAt)` -/
def User.expired (user : User) (now : Int) : Bool := user.expiresAt.any (· < now)

/-- The name of a company; `NULL` does not scan into the fields of a company. -/
def scanCompany (row : Row Datum) : Option String := do
  let _ ← intOf row "id"
  let name ← textOf row "name"
  let _ ← textOf row "code"
  let _ ← intOf row "status"
  let _ ← instantOf row "created_at"
  let _ ← instantOf row "updated_at"
  return name

/-- `Companies.GetByID`, for the name of the company. -/
def companyName (id : Int) : Api (Option String) := do
  let row ← selectFirst .companies <| Condition.selects [("id", .int id)]
  return row.bind scanCompany

/-! ### The service -/

def AuthService.authenticate (service : AuthService) (username password : String) :
    Api (Except String (TokenPair × User)) := do
  match ← getByUsername username with
  | none => return .error "invalid username or password"
  | some user =>
    let s ← get
    if !user.isActive then return .error "user account is deactivated"
    else if user.expired s.now then return .error "temporary account has expired"
    else if !s.bcrypt.verify user.passwordHash password then
      return .error "invalid username or password"
    else
      match service.generateTokenPair s.now user with
      | none => return .error "failed to generate tokens"
      | some tokens =>
        let _ ← attempt (updateLastLogin user.id)
        return .ok (tokens, user)

/-- Inserts a user; the user with its id. -/
def create (user : User) : Api User := do
  let id ← insertReturning .users
    [("company_id", some (.int user.companyID)),
      ("username", some (.text user.username)),
      ("password_hash", some (.text user.passwordHash)),
      ("full_name", some (.text user.fullName)),
      ("email", some (.text user.email)),
      ("phone", some (.text user.phone)),
      ("role", some (.text user.role)),
      ("is_active", some (.bool user.isActive))]
  return { user with id, createdAt := ← now }

/-- The user that signs up with a request. -/
def newUser (req : Fields) (hash : String) : User where
  id := 0
  companyID := req.int "company_id"
  username := req.text "username"
  passwordHash := hash
  fullName := req.text "full_name"
  email := req.text "email"
  phone := req.text "phone"
  role := "viewer" -- self-registered accounts start with read-only access
  permissions := "null"
  isActive := true
  lastLoginAt := none
  expiresAt := none
  createdAt := Go.zeroInstant

def AuthService.register (service : AuthService) (req : Fields) :
    Api (Except String (TokenPair × User)) := do
  match ← getByUsername (req.text "username") with
  | some _ => return .error "username is already taken"
  | none =>
    match (← get).bcrypt.hash (req.text "password") with
    | none => return .error "failed to hash password"
    | some hash =>
      match ← attempt (create (newUser req hash)) with
      | none => return .error "failed to register user: failed to create user"
      | some created =>
        match service.generateTokenPair (← now) created with
        | none => return .error "failed to generate tokens"
        | some tokens => return .ok (tokens, created)

/-! ### Public handlers -/

/-- Tokens for a user with a password. -/
def login (service : AuthService) (body : Except String Fields) : Api (TokenPair × User) := do
  if !(← get).pool then throw (.failure 503 "database unavailable")
  else
    match body with
    | .error _ => throw (badRequest "invalid username or password format")
    | .ok req =>
      if req.text "username" = "" ∨ req.text "password" = "" then
        throw (badRequest "invalid username or password format")
      else
        match ← service.authenticate (req.text "username") (req.text "password") with
        | .error _ => throw (unauthorized "invalid username or password")
        | .ok issued => return issued

/-- The `required` and `min` tags of a sign-up; a length is in characters. -/
def signupBinds (req : Fields) : Bool :=
  req.text "username" ≠ "" ∧ 6 ≤ (req.text "password").length ∧ req.text "full_name" ≠ "" ∧
    req.text "email" ≠ "" ∧ req.int "company_id" ≠ 0

/-- Tokens for a new user. -/
def signup (service : AuthService) (body : Except String Fields) : Api (TokenPair × User) := do
  if !(← get).pool then throw (.failure 503 "database unavailable")
  else
    match body with
    | .error _ => throw (badRequest "all required signup fields must be provided")
    | .ok req =>
      if !signupBinds req then throw (badRequest "all required signup fields must be provided")
      else if req.int "company_id" ≤ 0 then throw (badRequest "company_id is required")
      else
        match ← companyName (req.int "company_id") with
        | none => throw (badRequest "unknown organization: provide a valid company_id")
        | some _ =>
          match ← service.register req with
          | .error message => throw (.failure 409 message)
          | .ok issued => return issued

/-- An answer with tokens; the fields of its `user` under their paths. -/
def tokensFor (status : Nat) (tokens : TokenPair) (user : User) (companyName : String) :
    Response :=
  ⟨status, tokens.fields ++
    [("user.id", .int user.id), ("user.username", .text user.username),
      ("user.full_name", .text user.fullName), ("user.email", .text user.email),
      ("user.role", .text user.role), ("user.company_id", .int user.companyID),
      ("user.company_name", .text companyName)]⟩

def loginHandler (service : AuthService) (body : Except String Fields) : Api Response := do
  let (tokens, user) ← login service body
  let name ← if user.companyID > 0 then companyName user.companyID else pure none
  return tokensFor 200 tokens user (name.getD "")

def signupHandler (service : AuthService) (body : Except String Fields) : Api Response := do
  let (tokens, user) ← signup service body
  let name ← companyName user.companyID
  return tokensFor 201 tokens user (name.getD "")

end RudraNetra.API
