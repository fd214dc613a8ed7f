/-
The API as a whole: the public, the protected and the superadmin's routes of
`internal/handler/routes.go` over one server, and the tokens that its clients have.

Clients send any requests in any order, each in circumstances of its own: the time, the
statements that fail, what the random source yields.  A request goes in under a token, and
the secret is the server's: a text that verifies is a token that was handed out.
-/
import RudraNetra.Api.Accounts
import RudraNetra.Api.Console
import RudraNetra.Lib.Machine

namespace RudraNetra.API

open SQL Effect

/-- A request to the API. -/
inductive ApiCall where
  | login (body : Except String Fields)
  | signup (body : Except String Fields)
  | refresh (refreshToken : String)
  | request (endpoint : Endpoint) (authHeader : String) (r : Request)
  | admin (endpoint : AdminEndpoint) (authHeader : String) (r : Request)

/-- The text that a request has for a token. -/
def ApiCall.token : ApiCall → Option String
  | .login _ | .signup _ => none
  | .refresh refreshToken => some refreshToken
  | .request _ authHeader _ | .admin _ authHeader _ => bearerToken authHeader

/-- Serves a request behind `Auth`: its session is that of the token. -/
def served (service : AuthService) (h : Handler) (authHeader : String) (r : Request) :
    Api Response := do
  match auth service (← get).now authHeader with
  | .error error => throw error
  | .ok session => h.serve { r with session }

/-- The server, and the tokens it has handed out. -/
structure Gateway where
  server : Server
  tokens : List String

/-- After a request for tokens. -/
def Gateway.issue (g : Gateway) : Except Response (TokenPair × User) × Server → Gateway
  | (.ok (tokens, _), s) => ⟨s, g.tokens ++ [tokens.accessToken, tokens.refreshToken]⟩
  | (.error _, s) => { g with server := s }

def Gateway.after (g : Gateway) (service : AuthService) (s : Server) : ApiCall → Gateway
  | .login body => g.issue (outcome (login service body) s)
  | .signup body => g.issue (outcome (signup service body) s)
  | .refresh refreshToken => g.issue (outcome (refresh service refreshToken) s)
  | .request endpoint authHeader r =>
    { g with server := (outcome (served service endpoint.handler authHeader r) s).2 }
  | .admin endpoint authHeader r =>
    { g with server := (outcome (served service endpoint.handler authHeader r) s).2 }

/-- A request, and the server as it is found but for what it keeps. -/
structure ApiStep where
  call : ApiCall
  circumstances : Server

def ApiStep.finds (a : ApiStep) (s : Server) : Server :=
  { a.circumstances with db := s.db, serial := s.serial, published := s.published }

/-- A text that verifies, but was not handed out. -/
def Gateway.forged (g : Gateway) (service : AuthService) (now : Int) (token : String) : Bool :=
  (service.jwt.verify service.cfg.secret now token).isSome && !g.tokens.contains token

def gateway (service : AuthService) (s₀ : Server) : Machine Gateway ApiStep where
  init := ⟨s₀, []⟩
  step g a :=
    if a.call.token.any (g.forged service a.circumstances.now) then none
    else some (g.after service (a.finds g.server) a.call)

end RudraNetra.API
