/-
The session registry: `sessions` of `cmd/rudra-ingest/main.go`.

Every accepted connection has a handler of its own.  It reads the IMEI, asks the
database for the device, and stores its session under the IMEI; when it returns, the
deferred call deletes the entry of that IMEI.  Command lookups only read the map.
Store and Delete are atomic, so the handlers of all connections together are a machine
whose steps are theirs, in any order.
-/
import RudraNetra.Ingest.Handler
import RudraNetra.Lib.Machine

namespace RudraNetra

open Go

/-- The session of a connection: `conn` tells connections apart. -/
structure Session where
  conn : Nat
  info : DeviceSession
  deriving DecidableEq

def Session.imei (sess : Session) : List UInt8 := sess.info.imei

/-- What the database answers about an IMEI: device, company and plate. -/
structure DeviceAnswer where
  deviceID : Int
  companyID : Int
  regNumber : String

/-- The session that a handshake packet leads to, if it is not rejected. -/
def identify (conn : Nat) (packet : List UInt8) (answer : Option DeviceAnswer) : Option Session :=
  match parseIMEI packet with
  | .error _ => none -- an error, as the decoder does not panic (`parseIMEI_noPanic`)
  | .ok imei => answer.map fun d => ⟨conn, ⟨imei, d.deviceID, d.companyID, d.regNumber⟩⟩

structure Registry where
  /-- `sync.Map`, from the IMEI to the session. -/
  sessions : Finmap fun _ : List UInt8 => Session
  /-- Connections whose handler has not registered a session. -/
  pending : List Nat
  /-- Sessions whose handler has not returned, the last registered first. -/
  live : List Session
  /-- The number of the next connection. -/
  next : Nat

inductive RegistryStep where
  /-- A connection comes in and its handler starts. -/
  | accept
  /-- The handler of a connection reads the handshake packet and looks the device up. -/
  | handshake (conn : Nat) (packet : List UInt8) (answer : Option DeviceAnswer)
  /-- The connection breaks before the handshake. -/
  | abandon (conn : Nat)
  /-- The handler of a registered connection returns. -/
  | exit (conn : Nat)
  /-- The command subscriber looks an IMEI up. -/
  | lookup (imei : List UInt8)

def Registry.step (s : Registry) : RegistryStep → Option Registry
  | .accept => some { s with pending := s.next :: s.pending, next := s.next + 1 }
  | .handshake conn packet answer =>
    if conn ∈ s.pending then
      let s := { s with pending := s.pending.filter (· ≠ conn) }
      match identify conn packet answer with
      | none => some s
      | some sess => some { s with
          sessions := s.sessions.insert sess.imei sess
          live := sess :: s.live }
    else none
  | .abandon conn =>
    if conn ∈ s.pending then some { s with pending := s.pending.filter (· ≠ conn) } else none
  | .exit conn =>
    match s.live.find? (·.conn = conn) with
    | none => none
    | some sess => some { s with
        sessions := s.sessions.erase sess.imei
        live := s.live.filter (·.conn ≠ conn) }
  | .lookup _ => some s

/-- The registry when the server starts. -/
def registry : Machine Registry RegistryStep where
  init := ⟨∅, [], [], 0⟩
  step := Registry.step

end RudraNetra
