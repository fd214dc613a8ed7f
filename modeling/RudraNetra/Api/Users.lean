/-
Users: `internal/repository/postgres/user_repo.go`, and the handlers that change users.

A row that does not scan is as good as no row: the repository answers with an error.
-/
import RudraNetra.Api.Server

namespace RudraNetra.API

open SQL Effect

/-- A user in memory. -/
structure User where
  id : Int
  companyID : Int
  username : String
  passwordHash : String
  fullName : String
  email : String
  phone : String
  role : String
  permissions : String
  isActive : Bool
  lastLoginAt : Option Int
  /-- For temporary users. -/
  expiresAt : Option Int
  createdAt : Int

/-- Scans a row of `users`; a `NULL` does not scan into a field that is no pointer. -/
def scanUser (row : Row Datum) : Option User := do
  let id ← intOf row "id"
  let username ← textOf row "username"
  let passwordHash ← textOf row "password_hash"
  let role ← textOf row "role"
  let isActive ← boolOf row "is_active"
  let createdAt ← instantOf row "created_at"
  return {
    id, username, passwordHash, role, isActive, createdAt
    companyID := (intOf row "company_id").getD 0
    fullName := (textOf row "full_name").getD ""
    email := (textOf row "email").getD ""
    phone := (textOf row "phone").getD ""
    permissions := (jsonOf row "permissions").getD "\x7b\x7d"
    lastLoginAt := instantOf row "last_login_at"
    expiresAt := instantOf row "expires_at" }

/-! ### The repository -/

def getByUsername (username : String) : Api (Option User) := do
  let row ← selectFirst .users <| Condition.selects [("username", .text username)]
  return row.bind scanUser

def getByID (id : Int) : Api (Option User) := do
  let row ← selectFirst .users <| Condition.selects [("id", .int id)]
  return row.bind scanUser

def updateLastLogin (userID : Int) : Api Unit := do
  let _ ← exec <| .update .users [setTo "last_login_at" (some (.instant (← now)))]
    [("id", .int userID)]

def updatePassword (userID : Int) (newHash : String) : Api Unit := do
  let _ ← exec <| .update .users [setTo "password_hash" (some (.text newHash))]
    [("id", .int userID)]

/-! ### Handlers -/

/-- The user of the token, or an error. -/
def signedIn : Check := fun r =>
  if r.session.userID ≤ 0 then some (.failure 401 "authentication required") else none

def changePasswordHandler : Handler where
  checks := [signedIn,
    bindWith
      (fun req => req.text "old_password" ≠ "" ∧ 8 ≤ (req.text "new_password").utf8ByteSize)
      "old_password and new_password (min 8 chars) are required"]
  work := fun r _ _ req => do
    match ← getByID r.session.userID with
    | none => throw (.failure 500 "user not found")
    | some user =>
      let bcrypt := (← get).bcrypt
      if !bcrypt.verify user.passwordHash (req.text "old_password") then
        throw (.failure 401 "current password is incorrect")
      match bcrypt.hash (req.text "new_password") with
      | none => throw serverError
      | some hash =>
        updatePassword r.session.userID hash
        return .ok "password updated"

def adminCreateUserHandler : Handler where
  checks := [
    bindWith
      (fun req => req.text "username" ≠ "" ∧ 6 ≤ (req.text "password").utf8ByteSize ∧
        req.int "companyId" > 0)
      "username, password (min 6 chars) and companyId are required",
    require (fun req => req.text "role" ≠ "") "role is required"]
  work := fun _ _ _ req => do
    match (← get).bcrypt.hash (req.text "password") with
    | none => throw serverError
    | some hash =>
      let newID ← insertReturning .users
        [("company_id", some (.int (req.int "companyId"))),
          ("username", some (.text (req.text "username"))),
          ("password_hash", some (.text hash)),
          ("full_name", nonEmpty (req.text "fullName")),
          ("email", nonEmpty (req.text "email")),
          ("phone", nonEmpty (req.text "phone")),
          ("role", some (.text (req.text "role"))),
          ("is_active", some (.bool true))]
      return .created newID "User created"

def adminUpdateUserHandler : Handler where
  checks := [pathID "invalid user id", bindJSON]
  work := fun _ _ id req => do
    let affected ← exec <| .update .users
      [keepText "full_name" (req.text "fullName"),
        keepText "email" (req.text "email"),
        keepText "phone" (req.text "phone"),
        keepText "role" (req.text "role"),
        keepUnless "company_id" (nonZero (req.int "companyId")),
        keepUnless "is_active" ((req.flag "isActive").map .bool),
        touch (← now)]
      [("id", .int id)]
    if affected = 0 then throw (notFound "user not found")
    if req.text "password" ≠ "" then
      match (← get).bcrypt.hash (req.text "password") with
      | none => throw serverError
      | some hash => updatePassword id hash
    return .ok "User updated"

end RudraNetra.API
