/-
Access and refresh tokens: `internal/service/auth_service.go`, `middleware/auth.go` and the
gate of the WebSocket.

Both tokens of a pair are signed with one secret, which `main` also gives to the middleware.
The library that signs and verifies is a parameter.  It decodes what it has verified either
into `JWTClaims` or, for the refresh handler, into a map, whose numbers are `float64`.
-/
import RudraNetra.Api.Users
import RudraNetra.Lib.GoNumber
import RudraNetra.Lib.GoTime
import RudraNetra.Lib.JWT

namespace RudraNetra.API

open SQL Effect JWT

/-- Durations are in nanoseconds. -/
structure JWTConfig where
  secret : String
  accessTokenTTL : Int
  refreshTokenTTL : Int

structure AuthService where
  jwt : JWT.Library
  cfg : JWTConfig

structure TokenPair where
  accessToken : String
  refreshToken : String
  /-- When the access token expires, in seconds since the Unix epoch. -/
  expiresAt : Int
  deriving DecidableEq

/-! ### Issuing -/

/-- When a token that lives so long expires, if it is issued now. -/
def expiryOf (now ttl : Int) : Int := Go.unix (now + ttl)

def accessClaims (cfg : JWTConfig) (now : Int) (user : User) : Claims :=
  [("sub", .text (toString user.id)), ("user_id", .number user.id),
    ("company_id", .number user.companyID), ("username", .text user.username),
    ("role", .text user.role), ("exp", .number (expiryOf now cfg.accessTokenTTL)),
    ("iat", .number (Go.unix now))]

def refreshClaims (cfg : JWTConfig) (now : Int) (user : User) : Claims :=
  [("sub", .text (toString user.id)), ("user_id", .number user.id),
    ("company_id", .number user.companyID),
    ("exp", .number (expiryOf now cfg.refreshTokenTTL)), ("iat", .number (Go.unix now))]

def AuthService.generateTokenPair (service : AuthService) (now : Int) (user : User) :
    Option TokenPair := do
  let accessToken ← service.jwt.sign service.cfg.secret (accessClaims service.cfg now user)
  let refreshToken ← service.jwt.sign service.cfg.secret (refreshClaims service.cfg now user)
  return { accessToken, refreshToken, expiresAt := expiryOf now service.cfg.accessTokenTTL }

/-! ### Claims -/

/-- The claims that the middleware decodes. -/
structure JWTClaims where
  userID : Int
  companyID : Int
  username : String
  role : String
  deriving DecidableEq

/-- A field of type `int64`: zero if the claim is absent, and an error if it is no number. -/
def intClaim (claims : Claims) (name : String) : Option Int :=
  match claims.lookup name with
  | some (.number n) => some n
  | some (.text _) => none
  | none => some 0

/-- A field of type `string`. -/
def textClaim (claims : Claims) (name : String) : Option String :=
  match claims.lookup name with
  | some (.text text) => some text
  | some (.number _) => none
  | none => some ""

def decodeClaims (claims : Claims) : Option JWTClaims := do
  let userID ← intClaim claims "user_id"
  let companyID ← intClaim claims "company_id"
  let username ← textClaim claims "username"
  let role ← textClaim claims "role"
  return { userID, companyID, username, role }

/-- `jwt.ParseWithClaims(token, &JWTClaims{}, ...)` -/
def AuthService.parseWithClaims (service : AuthService) (now : Int) (token : String) :
    Option JWTClaims :=
  (service.jwt.verify service.cfg.secret now token).bind decodeClaims

/-- The `user_id` of a map of claims. -/
def subject (claims : Claims) : Int :=
  match claims.lookup "user_id" with
  | some (.number n) => Go.int64 (Go.float64 n)
  | some (.text text) => Go.parseInt text
  | none => 0

/-! ### Verifying -/

def unauthorized (error : String) : Response := .failure 401 error

/-- The token of an `Authorization` header: what follows its first space, after "Bearer". -/
def bearerToken (header : String) : Option String :=
  match header.toList.span (· ≠ ' ') with
  | (_, []) => none
  | (scheme, _ :: token) =>
    if scheme.map Char.toLower = "bearer".toList then some (String.ofList token) else none

/-- The middleware; an absent header is empty. -/
def auth (service : AuthService) (now : Int) (authHeader : String) : Except Response Session :=
  if authHeader = "" then .error (unauthorized "authorization header required")
  else
    match bearerToken authHeader with
    | none => .error (unauthorized "invalid authorization header format")
    | some token =>
      match service.parseWithClaims now token with
      | none => .error (unauthorized "invalid or expired token")
      | some claims =>
        .ok ⟨claims.userID, claims.companyID, claims.username, claims.role⟩

/-- The company whose positions a WebSocket gets, by the token of its query. -/
def wsTrackingHandler (service : AuthService) (now : Int) (token : String) : Except Response Int :=
  if token = "" then .error (unauthorized "token query parameter is required")
  else
    match service.parseWithClaims now token with
    | none => .error (unauthorized "invalid or expired token")
    | some claims =>
      if claims.companyID ≤ 0 then .error (unauthorized "token has no tenant scope")
      else .ok claims.companyID

/-- A new pair for the user of a refresh token, and the user.  The token is what binding leaves
of the body's field. -/
def refresh (service : AuthService) (refreshToken : String) : Api (TokenPair × User) := do
  let s ← get
  if !s.pool then throw (.failure 503 "database unavailable")
  else if refreshToken = "" then throw (badRequest "refresh_token is required")
  else
    match service.jwt.verify service.cfg.secret s.now refreshToken with
    | none => throw (unauthorized "invalid or expired refresh token")
    | some claims =>
      if subject claims ≤ 0 then throw (unauthorized "invalid refresh token subject")
      else
        match ← getByID (subject claims) with
        | none => throw (unauthorized "user is no longer active")
        | some user =>
          if !user.isActive then throw (unauthorized "user is no longer active")
          else
            match service.generateTokenPair s.now user with
            | none => throw serverError
            | some tokens => return (tokens, user)

/-- The fields of an answer with tokens. -/
def TokenPair.fields (tokens : TokenPair) : List (String × Datum) :=
  [("success", .bool true), ("token", .text tokens.accessToken),
    ("access_token", .text tokens.accessToken), ("refresh_token", .text tokens.refreshToken),
    ("expires_at", .int tokens.expiresAt)]

def refreshTokenHandler (service : AuthService) (refreshToken : String) : Api Response := do
  let (tokens, _) ← refresh service refreshToken
  return ⟨200, tokens.fields⟩

end RudraNetra.API
