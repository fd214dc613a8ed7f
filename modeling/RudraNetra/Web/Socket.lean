/-
The socket of the page: `hooks/useWebSocket.ts`.

The component that uses the hook is mounted, renders with another session and is unmounted; then the
effect runs, or is cleaned up, or both.  The browser reports that a socket is open, in error
or closed, and runs the timers.  A timer keeps the session with which its socket was opened.
-/
import RudraNetra.Web.VehicleStore

namespace RudraNetra.Web

/-- What the effect depends on. -/
structure Session where
  token : Option String
  companyID : Option Int
  deriving DecidableEq

structure SocketURL where
  scheme : String
  host : String
  path : String
  params : List (String × String)

/-- `wsUrl` -/
def Session.socketURL (session : Session) (loc : Location) : SocketURL where
  scheme := if loc.protocol = "https:" then "wss:" else "ws:"
  host :=
    if loc.port ≠ "8080" ∧ loc.hostname = "localhost" then "localhost:8080" else loc.host
  path := "/ws/tracking"
  params :=
    (if session.token.getD "" = "" then [] else [("token", session.token.getD "")]) ++
      if session.companyID.getD 0 = 0 then []
      else [("company_id", toString (session.companyID.getD 0))]

inductive ReadyState where
  | connecting
  | opened
  | closing
  | closed
  deriving DecidableEq

structure Socket where
  url : SocketURL
  /-- The session that the handlers of the socket captured. -/
  session : Session
  state : ReadyState

/-- The socket is open, or is being opened. -/
def Socket.isLive (s : Socket) : Bool := s.state = .connecting ∨ s.state = .opened

structure Hook where
  loc : Location
  /-- The session with which the component rendered last, if it is mounted. -/
  mounted : Option Session
  isConnected : Bool
  /-- All sockets so far. -/
  sockets : List Socket
  socketRef : Option Nat
  /-- The timers that have not run, each with the session that `connect` captured. -/
  timers : List Session

inductive HookEvent where
  | mount (session : Session)
  | change (session : Session)
  | unmount
  | opened (i : Nat)
  | error (i : Nat)
  | closed (i : Nat)
  | timer (k : Nat)

def Hook.connect (h : Hook) (session : Session) : Hook :=
  { h with
    sockets := h.sockets ++ [⟨session.socketURL h.loc, session, .connecting⟩]
    socketRef := some h.sockets.length }

/-- `ws.close()`, which does nothing to a socket that is closed already. -/
def Socket.close (s : Socket) : Socket := if s.isLive then { s with state := .closing } else s

def Hook.close (h : Hook) (i : Nat) : Hook :=
  match h.sockets[i]? with
  | some s => { h with sockets := h.sockets.set i s.close }
  | none => h

/-- The cleanup of the effect. -/
def Hook.cleanup (h : Hook) : Hook :=
  match h.socketRef with
  | some i => h.close i
  | none => h

def Hook.step (h : Hook) : HookEvent → Option Hook
  | .mount session =>
    if h.mounted = none then some ({ h with mounted := some session }.connect session) else none
  | .change session =>
    if h.mounted = none ∨ h.mounted = some session then none
    else some ({ h.cleanup with mounted := some session }.connect session)
  | .unmount => if h.mounted = none then none else some { h.cleanup with mounted := none }
  | .opened i =>
    match h.sockets[i]? with
    | some s =>
      if s.state = .connecting then
        some { h with sockets := h.sockets.set i { s with state := .opened }, isConnected := true }
      else none
    | none => none
  | .error i =>
    match h.sockets[i]? with
    | some s => if s.state = .closed then none else some (h.close i)
    | none => none
  | .closed i =>
    match h.sockets[i]? with
    | some s =>
      if s.state = .closed then none
      else some
        { h with
          sockets := h.sockets.set i { s with state := .closed }
          isConnected := false
          timers := h.timers ++ [s.session] }
    | none => none
  | .timer k =>
    match h.timers[k]? with
    | some session => some ({ h with timers := h.timers.eraseIdx k }.connect session)
    | none => none

def Hook.unmounted (loc : Location) : Hook := ⟨loc, none, false, [], none, []⟩

def hook (loc : Location) : Machine Hook HookEvent := ⟨Hook.unmounted loc, Hook.step⟩

end RudraNetra.Web
