/-
The WebSocket hub: `internal/websocket/hub.go`.

One goroutine, `Run`, owns the map of clients.  It selects among three channels: clients
to register and to unregister, which are handed over without a buffer, and a queue of
messages to broadcast.  For a message it goes over the clients of the message's company,
in any order, and puts it into the buffer of each client that is subscribed; a client
whose buffer is full is to be disconnected, for which `Run` sends it to the channel of
clients to unregister.

The handler of a connection registers its client once, before it starts the two
goroutines that use it; each of them unregisters the client when it ends, and one of them
takes the messages out of the buffer.  Here a client may be unregistered by anyone at any
time, any number of times.
-/
import RudraNetra.Domain.Position
import RudraNetra.Lib.Machine

namespace RudraNetra

/-- A marshalled message and whom it is for. -/
structure BroadcastMessage where
  companyID : Int
  deviceID : Int
  data : List UInt8
  deriving DecidableEq

/-- The message of `BroadcastPosition`. -/
def positionMessage (companyID deviceID : Int) (data : List UInt8) : BroadcastMessage :=
  ⟨companyID, deviceID, data⟩

/-- The message of `BroadcastAlert`. -/
def alertMessage (companyID : Int) (data : List UInt8) : BroadcastMessage := ⟨companyID, 0, data⟩

/-- What the API broadcasts for a live event from Redis. -/
def forwardPosition (event : LiveEvent) (data : List UInt8) : Option BroadcastMessage :=
  if event.deviceID = 0 then none else some (positionMessage event.companyID event.deviceID data)

/-- The capacity of a client's `Send`. -/
def sendCapacity : Nat := 256

/-- The capacity of the hub's `Broadcast`. -/
def broadcastCapacity : Nat := 1024

structure Client where
  id : String
  companyID : Int
  /-- What is in the buffer of `Send`. -/
  send : List (List UInt8)
  closed : Bool
  subscribedDevs : Finset Int

def Client.new (id : String) (companyID : Int) : Client := ⟨id, companyID, [], false, ∅⟩

def Client.subscribe (c : Client) (deviceIDs : List Int) : Client :=
  { c with subscribedDevs := c.subscribedDevs ∪ deviceIDs.toFinset }

/-- Without subscriptions a client gets everything of its company. -/
def Client.isSubscribed (c : Client) (deviceID : Int) : Bool :=
  c.subscribedDevs = ∅ || deviceID ∈ c.subscribedDevs

/-- Where `Run` is. -/
inductive HubPhase where
  | selecting
  /-- In the loop over the clients of a company; those in `todo` have not been looked at. -/
  | broadcasting (msg : BroadcastMessage) (todo : Finset Nat)
  /-- In that loop, sending a client to `Unregister`. -/
  | disconnecting (c : Nat) (msg : BroadcastMessage) (todo : Finset Nat)
  | panicked

structure Hub where
  /-- The clients of each company. -/
  clients : Finmap fun _ : Int => Finset Nat
  /-- What is in the buffer of `Broadcast`. -/
  broadcast : List BroadcastMessage
  phase : HubPhase
  /-- All clients there have been, by number. -/
  client : Nat → Client
  next : Nat
  /-- The clients that `Run` has received from `Register`. -/
  registered : Finset Nat
  /-- All that was ever put into the buffer of a client; this is not looked at. -/
  sent : Nat → List (List UInt8)

inductive HubEvent where
  /-- A browser connects and `NewClient` makes its client. -/
  | connect (c : Nat) (id : String) (companyID : Int)
  /-- `Run` receives a client from `Register`. -/
  | register (c : Nat)
  /-- `Run` receives a client from `Unregister`. -/
  | unregister (c : Nat)
  | subscribe (c : Nat) (deviceIDs : List Int)
  /-- A message is taken out of the buffer of a client. -/
  | read (c : Nat)
  /-- A message is put into `Broadcast`. -/
  | enqueue (msg : BroadcastMessage)
  /-- `Run` receives a message from `Broadcast`. -/
  | process (msg : BroadcastMessage)
  /-- The loop comes to a client. -/
  | visit (c : Nat)
  /-- The loop has come to all clients. -/
  | finish

/-- The clients of a company. -/
def Hub.companyClients (h : Hub) (companyID : Int) : Finset Nat :=
  (h.clients.lookup companyID).getD ∅

def Hub.setClient (h : Hub) (c : Nat) (client : Client) : Hub :=
  { h with client := Function.update h.client c client }

/-- Takes a client out of the map and closes its `Send`; closing it twice is a panic. -/
def Hub.remove (h : Hub) (c : Nat) : Hub :=
  let client := h.client c
  let rest := (h.companyClients client.companyID).erase c
  if client.closed then { h with phase := .panicked }
  else { h.setClient c { client with closed := true } with
    clients := if rest = ∅ then h.clients.erase client.companyID
      else h.clients.insert client.companyID rest }

/-- Puts a message into the buffer of a client. -/
def Hub.push (h : Hub) (c : Nat) (data : List UInt8) : Hub :=
  { h.setClient c { h.client c with send := (h.client c).send ++ [data] } with
    sent := Function.update h.sent c (h.sent c ++ [data]) }

/-- The loop's body; sending on a closed channel is a panic. -/
def Hub.offer (h : Hub) (c : Nat) (msg : BroadcastMessage) (todo : Finset Nat) : Hub :=
  let client := h.client c
  if !client.isSubscribed msg.deviceID then { h with phase := .broadcasting msg todo }
  else if client.closed then { h with phase := .panicked }
  else if client.send.length < sendCapacity then
    { h.push c msg.data with phase := .broadcasting msg todo }
  else { h with phase := .disconnecting c msg todo }

def Hub.step (h : Hub) : HubEvent → Option Hub
  | .connect c id companyID =>
    if c = h.next then some { h.setClient c (Client.new id companyID) with next := h.next + 1 }
    else none
  | .register c =>
    match h.phase with
    | .selecting =>
      if c < h.next ∧ c ∉ h.registered then
        let companyID := (h.client c).companyID
        some { h with
          clients := h.clients.insert companyID (insert c (h.companyClients companyID))
          registered := insert c h.registered }
      else none
    | _ => none
  | .unregister c =>
    match h.phase with
    | .selecting =>
      if c < h.next then
        if c ∈ h.companyClients (h.client c).companyID then some (h.remove c) else some h
      else none
    | _ => none
  | .subscribe c deviceIDs =>
    if c < h.next then some (h.setClient c ((h.client c).subscribe deviceIDs)) else none
  | .read c =>
    match (h.client c).send with
    | [] => none
    | _ :: send => some (h.setClient c { h.client c with send := send })
  | .enqueue msg =>
    if h.broadcast.length < broadcastCapacity then
      some { h with broadcast := h.broadcast ++ [msg] }
    else none
  | .process msg =>
    match h.phase, h.broadcast with
    | .selecting, first :: rest =>
      if msg = first then
        match h.clients.lookup msg.companyID with
        | none => some { h with broadcast := rest }
        | some todo => some { h with broadcast := rest, phase := .broadcasting msg todo }
      else none
    | _, _ => none
  | .visit c =>
    match h.phase with
    | .broadcasting msg todo => if c ∈ todo then some (h.offer c msg (todo.erase c)) else none
    | _ => none
  | .finish =>
    match h.phase with
    | .broadcasting _ todo => if todo = ∅ then some { h with phase := .selecting } else none
    | _ => none

/-- A new hub, and the connections around it. -/
def hub : Machine Hub HubEvent where
  init := ⟨∅, [], .selecting, fun _ => Client.new "" 0, 0, ∅, fun _ => []⟩
  step := Hub.step

/-- The number of connected clients. -/
def Hub.connectedCount (h : Hub) : Nat := ∑ k ∈ h.clients.keys, (h.companyClients k).card

end RudraNetra
