/-
The fleet in the browser: `store/vehicleStore.ts` and `store/authStore.ts` of the client, and what
`hooks/useWebSocket.ts` does with a message.

`fetchVehicles` gives up control once, while it waits for the response.  So a `Page` keeps the
calls that were made and what became of them, and a call is two steps of the machine
`page`: the call itself, and the response.
-/
import RudraNetra.Lib.Machine

namespace RudraNetra.Web

/-! ### JSON -/

/-- A value that is no object and no array. -/
inductive Scalar where
  | null
  | bool (b : Bool)
  | number (q : ℚ)
  | text (s : String)
  deriving DecidableEq

/-- The members of an object; a member that is absent is `undefined`. -/
abbrev Members : Type := List (String × Scalar)

/-- `typeof v === 'number' ? v : undefined` -/
def asNumber : Option Scalar → Option ℚ
  | some (.number q) => some q
  | _ => none

def asBoolean : Option Scalar → Option Bool
  | some (.bool b) => some b
  | _ => none

def asText : Option Scalar → Option String
  | some (.text s) => some s
  | _ => none

/-- `a ?? b` -/
def orElse (a b : Option Scalar) : Option Scalar := if a = none ∨ a = some .null then b else a

def isSpace (c : Char) : Bool :=
  ('\t' ≤ c ∧ c ≤ '\r') ∨ c = ' ' ∨ c = '\u00A0' ∨ c = '\u1680' ∨ ('\u2000' ≤ c ∧ c ≤ '\u200A') ∨
    c = '\u2028' ∨ c = '\u2029' ∨ c = '\u202F' ∨ c = '\u205F' ∨ c = '\u3000' ∨ c = '\uFEFF'

/-- `s.trim()` -/
def trim (s : String) : String :=
  String.ofList ((s.toList.dropWhile isSpace).reverse.dropWhile isSpace).reverse

/-! ### Positions -/

/-- What the map is keyed by: a number, or whatever stands in its place. -/
abbrev Device : Type := Option Scalar

structure VehiclePosition where
  deviceID : Device
  regNumber : Option Scalar
  name : Option String
  driverName : Option Scalar
  driverPhone : Option Scalar
  locationName : Option Scalar
  lat : Option ℚ
  lng : Option ℚ
  speed : Option ℚ
  heading : Option ℚ
  ignition : Option Bool
  status : Option Scalar
  online : Option Bool
  timestamp : Option Scalar
  odometer : Option ℚ
  temperature : Option ℚ
  deriving DecidableEq

abbrev VehicleMap : Type := Finmap fun _ : Device => VehiclePosition

/-- A row of the response as a position; the make and the model are texts. -/
def positionOfRow (v : Members) : VehiclePosition :=
  let devId := orElse (v.lookup "device_id") (v.lookup "id")
  let lat := asNumber (v.lookup "lat")
  let lng := asNumber (v.lookup "lng")
  let hasPosition := lat.isSome && lng.isSome
  let makeModel := trim (" ".intercalate
    ([asText (v.lookup "make"), asText (v.lookup "model")].reduceOption.filter (· ≠ "")))
  { deviceID := devId
    regNumber := v.lookup "reg_number"
    name := if makeModel = "" then none else some makeModel
    driverName := orElse (v.lookup "driver_name") none
    driverPhone := orElse (v.lookup "driver_phone") none
    locationName := orElse (v.lookup "location_name") none
    lat := lat
    lng := lng
    speed := asNumber (v.lookup "speed")
    heading := asNumber (v.lookup "heading")
    ignition := asBoolean (v.lookup "ignition")
    status := if hasPosition then orElse (v.lookup "status") none else some (.text "offline")
    online := some ((asBoolean (v.lookup "online")).getD hasPosition)
    timestamp := orElse (v.lookup "timestamp") none
    odometer := asNumber (v.lookup "odometer")
    temperature := asNumber (v.lookup "temperature") }

/-- The map of a response: a row replaces an earlier one with its device. -/
def mapOf (data : List Members) : VehicleMap :=
  data.foldl (fun map v => map.insert (positionOfRow v).deviceID (positionOfRow v)) ∅

/-- A message of the socket; `payload` is its member of that name, if that is truthy. -/
structure Message where
  members : Members
  payload : Option Members

def positionOfPayload (payload : Members) : VehiclePosition where
  deviceID := payload.lookup "device_id"
  regNumber := payload.lookup "reg_number"
  name := none
  driverName := none
  driverPhone := none
  locationName := none
  lat := asNumber (payload.lookup "lat")
  lng := asNumber (payload.lookup "lng")
  speed := asNumber (payload.lookup "speed")
  heading := asNumber (payload.lookup "heading")
  ignition := asBoolean (payload.lookup "ignition")
  status := payload.lookup "status"
  online := some true
  timestamp := orElse (payload.lookup "timestamp") (payload.lookup "time")
  odometer := asNumber (payload.lookup "odometer")
  temperature := asNumber (payload.lookup "temperature")

/-- `ws.onmessage`: the position with which the store is updated, if there is one.  Data that do not
parse are no message. -/
def onmessage (data : Option Message) : Option VehiclePosition :=
  data.bind fun msg =>
    if msg.members.lookup "type" = some (.text "position") ∨ msg.members.lookup "lat" ≠ none then
      let payload := msg.payload.getD msg.members
      if asNumber (payload.lookup "device_id") = none then none else some (positionOfPayload payload)
    else none

/-! ### The store -/

structure VehicleState where
  vehicles : VehicleMap
  selectedDeviceID : Option Int
  loading : Bool
  error : Option String
  totalCount : Int
  companyID : Option Int

def VehicleState.initial : VehicleState := ⟨∅, none, false, none, 0, none⟩

/-- `updatePosition`, which looks at no timestamp. -/
def VehicleState.updatePosition (state : VehicleState) (pos : VehiclePosition) : VehicleState :=
  { state with vehicles := state.vehicles.insert pos.deviceID pos }

def VehicleState.clearVehicles (state : VehicleState) : VehicleState :=
  { state with vehicles := ∅, selectedDeviceID := none, totalCount := 0, companyID := none }

structure AuthUser where
  companyID : Int

structure AuthState where
  token : Option String
  user : Option AuthUser
  isAuthenticated : Bool
  /-- `rudra_auth_token` of the local storage -/
  savedToken : Option String

def AuthState.setAuth (_ : AuthState) (token : String) (user : AuthUser) : AuthState :=
  ⟨some token, some user, true, some token⟩

def AuthState.logout (_ : AuthState) : AuthState := ⟨none, none, false, none⟩

/-- The address that the page was loaded from. -/
structure Location where
  protocol : String
  hostname : String
  port : String
  host : String

structure Request where
  host : String
  path : String
  params : List (String × String)
  token : String
  targetCompany : Option Int

/-- `a || b`, on texts that may be missing. -/
def orText (a : Option String) (b : String) : String := if a.getD "" = "" then b else a.getD ""

/-- What `fetchVehicles` asks the server for, if there is a session. -/
def requestOf (loc : Location) (auth : AuthState) (token : Option String) (companyID : Option Int) :
    Option Request :=
  let host := if loc.port ≠ "8080" ∧ loc.hostname = "localhost" then "http://localhost:8080" else ""
  let targetCompany := companyID.or (auth.user.map (·.companyID))
  let activeToken := orText token (orText auth.token (orText auth.savedToken ""))
  if activeToken = "" then none
  else some
    { host := host
      path := "/api/v1/vehicles"
      params := ("limit", "500") :: (targetCompany.map fun id => ("company_id", toString id)).toList
      token := activeToken
      targetCompany := targetCompany }

/-- The body of a response; `data` is missing if it is no array. -/
structure Body where
  success : Bool
  data : Option (List Members)
  total : Option Int
  error : Option String

/-- What becomes of a request: it is rejected, or there is a response. -/
inductive Response where
  | rejected (message : String)
  | reply (status : Nat) (statusText : String) (body : Except String Body)

/-- The rows of the response and their total, or the error that is thrown. -/
def Response.payload : Response → Except String (List Members × Option Int)
  | .rejected message => .error message
  | .reply status statusText body =>
    if status = 401 then .error "Session expired or unauthorized. Please sign in."
    else if ¬(200 ≤ status ∧ status ≤ 299) then .error ("Failed to load vehicles: " ++ statusText)
    else do
      let json ← body
      match json.success, json.data with
      | true, some data => return (data, json.total)
      | _, _ => throw (orText json.error "Invalid vehicles payload")

def Response.isUnauthorized : Response → Bool
  | .rejected _ => false
  | .reply status _ _ => status = 401

/-! ### The page -/

/-- The vehicles that the store holds, and whose they are. -/
structure Held where
  vehicles : VehicleMap
  companyID : Option Int

def Held.none : Held := ⟨∅, Option.none⟩

def VehicleState.held (state : VehicleState) : Held := ⟨state.vehicles, state.companyID⟩

/-- A call of `clearVehicles` or `fetchVehicles`, and what became of it. -/
inductive Call where
  | cleared
  | pending (request : Request)
  | failed
  | answered (held : Held)

structure Page where
  loc : Location
  auth : AuthState
  store : VehicleState
  /-- The calls so far, in the order in which they were made. -/
  calls : List Call

inductive Event where
  | setAuth (token : String) (user : AuthUser)
  | logout
  | message (data : Option Message)
  | clearVehicles
  | fetchVehicles (token : Option String) (companyID : Option Int)
  | response (i : Nat) (response : Response)

/-- `catch` of `fetchVehicles` -/
def VehicleState.caught (state : VehicleState) (message : String) : VehicleState :=
  { state with error := some message, loading := false }

/-- `fetchVehicles` up to the request. -/
def Page.fetchVehicles (p : Page) (token : Option String) (companyID : Option Int) : Page :=
  let store := { p.store with loading := true, error := none }
  match requestOf p.loc p.auth token companyID with
  | some request => { p with store := store, calls := p.calls ++ [.pending request] }
  | none =>
    { p with
      auth := p.auth.logout
      store := store.caught "Unauthenticated: no active session. Please sign in."
      calls := p.calls ++ [.failed] }

/-- What a request brings, if it gets through. -/
def heldOf (request : Request) (data : List Members) : Held := ⟨mapOf data, request.targetCompany⟩

/-- `fetchVehicles` from the response on; it is the call numbered `i`. -/
def Page.receive (p : Page) (i : Nat) (request : Request) (response : Response) : Page :=
  match response.payload with
  | .error message =>
    { p with
      auth := if response.isUnauthorized then p.auth.logout else p.auth
      store := p.store.caught message
      calls := p.calls.set i .failed }
  | .ok (data, total) =>
    let held := heldOf request data
    { p with
      store :=
        { p.store with
          vehicles := held.vehicles
          totalCount := total.getD held.vehicles.keys.card
          companyID := held.companyID
          loading := false }
      calls := p.calls.set i (.answered held) }

/-- The page opened, with no call made. -/
def Page.opened (loc : Location) (auth : AuthState) : Page := ⟨loc, auth, .initial, []⟩

def Page.step (p : Page) : Event → Option Page
  | .setAuth token user => some { p with auth := p.auth.setAuth token user }
  | .logout => some { p with auth := p.auth.logout }
  | .message data =>
    match onmessage data with
    | some pos => some { p with store := p.store.updatePosition pos }
    | none => some p
  | .clearVehicles => some { p with store := p.store.clearVehicles, calls := p.calls ++ [.cleared] }
  | .fetchVehicles token companyID => some (p.fetchVehicles token companyID)
  | .response i response =>
    match p.calls[i]? with
    | some (.pending request) => some (p.receive i request response)
    | _ => none

def page (loc : Location) (auth : AuthState) : Machine Page Event := ⟨Page.opened loc auth, Page.step⟩

end RudraNetra.Web
