/-
Commands to devices: `sendDeviceCommandHandler` of `internal/handler/legacy_handlers.go`,
`subscribeCommands` and `handleCommandResponse` of `cmd/rudra-ingest/main.go`.

The API stores a command and publishes it on Redis.  One goroutine of the ingest server
takes the published commands one after the other: it looks up the session of the
device, writes the command to its socket, stores the command's id in the session's
`lastCommand`, and marks the row.  The goroutine that reads a connection takes the
responses: it loads `lastCommand`, records the response on that row if there is one, and
clears `lastCommand`.  A response does not say which command it answers.

Each of these actions is a step, and the steps of all goroutines come in any order.
Statements succeed; a write to a socket or a publication may fail.
-/
import RudraNetra.Codec.Teltonika
import RudraNetra.Lib.GoJSON
import RudraNetra.Lib.Machine
import RudraNetra.Store.Commands

namespace RudraNetra

open Go

/-! ### The API handler -/

/-- A request, as far as it is understood. -/
structure CommandRequest where
  companyID : Int
  /-- The id in the path, if it is a number. -/
  deviceID : Option Int
  commandType : String
  pin : String
  sentBy : String

/-- An error response. -/
structure Refusal where
  status : Nat
  error : String
  deriving DecidableEq

/-- What the hardware is sent for a type of command. -/
def commandPayload (commandType : String) : String :=
  if commandType = "IEngineOff" then "setdigout 1"
  else if commandType = "IEngineOn" then "setdigout 0"
  else if commandType = "IAcOff" then "setdigout 01"
  else if commandType = "IDoorOff" then "setdigout 001"
  else if commandType = "SirenHooter" then "setdigout 0001 5"
  else if commandType = "Reboot" then "cpureset"
  else commandType

/-- `unicode.IsSpace`. -/
def isSpace (c : Char) : Bool :=
  [0x09, 0x0A, 0x0B, 0x0C, 0x0D, 0x20, 0x85, 0xA0, 0x1680, 0x2028, 0x2029, 0x202F, 0x205F,
    0x3000].contains c.toNat || (0x2000 ≤ c.toNat && c.toNat ≤ 0x200A)

/-- Whether nothing is left of a text when it is trimmed. -/
def isBlank (text : String) : Bool := text.toList.all isSpace

/-- The checks of the handler, given the company's PIN and the IMEI of its device as the database
answers; the device, its IMEI and what is sent to it. -/
def checkCommand (req : CommandRequest) (pin : Option String) (imei : Option (List UInt8)) :
    Except Refusal (Int × List UInt8 × String) :=
  match req.deviceID with
  | none => .error ⟨400, "invalid device id"⟩
  | some deviceID =>
    if isBlank req.commandType then .error ⟨400, "commandType is required"⟩
    else if (req.commandType = "IEngineOff" ∨ req.commandType = "IDoorOff") ∧
        (pin.getD "" = "" ∨ req.pin ≠ pin.getD "") then
      .error ⟨401, "Invalid authorization security PIN for immobilizer command"⟩
    else
      match imei with
      | none => .error ⟨404, "device not found for this organization"⟩
      | some imei => .ok (deviceID, imei, commandPayload req.commandType)

/-- The row of a command that has just been sent. -/
def sentRow (id : Int) (req : CommandRequest) (deviceID : Int) (vehicleID : Option Int)
    (command : String) (now : Int) : CommandRow where
  id := id
  companyID := req.companyID
  deviceID := deviceID
  vehicleID := vehicleID
  commandType := req.commandType
  commandPayload := command
  sentBy := nullIfEmpty req.sentBy
  status := .sent
  sentAt := now
  deliveredAt := none
  ackAt := none
  response := none

/-- A command as the API publishes it. -/
structure CommandMessage where
  imei : List UInt8
  commandID : Int
  command : String
  deriving DecidableEq

/-! ### The state of the ingest server -/

/-- A frame on its way to a device.  The frame does not have the id in it. -/
structure Downlink where
  commandID : Int
  frame : List UInt8
  deriving DecidableEq

/-- A payload on its way from a device, and the command it answers, which the server does not
see. -/
structure Uplink where
  payload : List UInt8
  answers : Option Int
  deriving DecidableEq

/-- Where `handleCommandResponse` is. -/
inductive Responder where
  | waiting
  | received (text : List UInt8) (answers : Option Int)
  | loaded (text : List UInt8) (answers : Option Int) (commandID : Int)
  | recorded
  deriving DecidableEq

/-- The session of a connection and what is under way on it. -/
structure CommandLink where
  opened : Bool
  /-- `device_commands.id` awaiting a Codec 12 response. -/
  lastCommand : Int
  downstream : List Downlink
  upstream : List Uplink
  responder : Responder
  deriving DecidableEq

def CommandLink.new : CommandLink := ⟨false, 0, [], [], .waiting⟩

/-- Where `subscribeCommands` is. -/
inductive Subscriber (Conn : Type) where
  | idle
  | writing (conn : Conn) (cmd : CommandMessage)
  | storing (conn : Conn) (cmd : CommandMessage)
  | marking (cmd : CommandMessage)

/-- A response that was recorded: the command it answers, and the row it was recorded on. -/
structure RecordedResponse where
  answers : Option Int
  row : Int
  text : List UInt8
  deriving DecidableEq

structure CommandState (Conn : Type) where
  rows : List CommandRow
  /-- The next value of the table's `BIGSERIAL`. -/
  nextID : Int
  /-- Commands that are stored and not published. -/
  unpublished : List CommandMessage
  channel : List CommandMessage
  subscriber : Subscriber Conn
  sessions : List UInt8 → Option Conn
  link : Conn → CommandLink
  /-- The ids of the commands written to a socket; this and what follows is not looked at. -/
  written : List Int
  /-- What devices answered to commands. -/
  answered : List (Int × List UInt8)
  recorded : List RecordedResponse

inductive CommandEvent (Conn : Type) where
  /-- The API checks a request and stores the command. -/
  | issue (req : CommandRequest) (pin : Option String) (imei : Option (List UInt8))
      (vehicleID : Option Int) (now : Int)
  /-- The API publishes a command; it may not get through. -/
  | publish (i : Nat) (ok : Bool)
  | connect (conn : Conn) (imei : List UInt8)
  | disconnect (imei : List UInt8)
  /-- The subscriber takes a command from the channel and looks the device up. -/
  | take
  | write (ok : Bool)
  /-- The subscriber stores the id in `lastCommand`. -/
  | store
  /-- The subscriber marks the row as delivered. -/
  | mark (now : Int)
  /-- The device answers the first command it has not answered, with one entry. -/
  | answer (conn : Conn) (payload : List UInt8)
  /-- The device sends a Codec 12 payload of its own accord. -/
  | send (conn : Conn) (payload : List UInt8)
  /-- The responder takes a payload and parses it. -/
  | receive (conn : Conn)
  /-- The responder loads `lastCommand`. -/
  | load (conn : Conn)
  /-- The responder records the response. -/
  | record (conn : Conn) (now : Int)
  /-- The responder stores 0 in `lastCommand`. -/
  | clear (conn : Conn)

/-- The text of a response: the only entry, or all of them as JSON.  Nothing if the payload does
not parse or has no entry. -/
def responseText (payload : List UInt8) : Option (List UInt8) :=
  match parseCommandPayload payload with
  | .returns [text] none => some text
  | .returns (text :: texts) none => some (marshalStrings (text :: texts))
  | _ => none -- the parser does not panic (`parseCommandPayload_ne_panics`)

section

variable {Conn : Type} [DecidableEq Conn]

def CommandState.setLink (s : CommandState Conn) (conn : Conn) (l : CommandLink) :
    CommandState Conn :=
  { s with link := Function.update s.link conn l }

@[simp] theorem CommandState.setLink_link (s : CommandState Conn) (conn : Conn) (l : CommandLink) :
    (s.setLink conn l).link conn = l := Function.update_self ..

@[simp] theorem CommandState.setLink_written (s : CommandState Conn) (conn : Conn)
    (l : CommandLink) : (s.setLink conn l).written = s.written := rfl

@[simp] theorem CommandState.setLink_answered (s : CommandState Conn) (conn : Conn)
    (l : CommandLink) : (s.setLink conn l).answered = s.answered := rfl

@[simp] theorem CommandState.setLink_recorded (s : CommandState Conn) (conn : Conn)
    (l : CommandLink) : (s.setLink conn l).recorded = s.recorded := rfl

def CommandState.step (s : CommandState Conn) : CommandEvent Conn → Option (CommandState Conn)
  | .issue req pin imei vehicleID now =>
    match checkCommand req pin imei with
    | .error _ => some s
    | .ok (deviceID, imei, command) => some { s with
        rows := s.rows ++ [sentRow s.nextID req deviceID vehicleID command now]
        nextID := s.nextID + 1
        unpublished := s.unpublished ++ [⟨imei, s.nextID, command⟩] }
  | .publish i ok =>
    match s.unpublished[i]? with
    | none => none
    | some cmd => some { s with
        unpublished := s.unpublished.eraseIdx i
        channel := if ok then s.channel ++ [cmd] else s.channel }
  | .connect conn imei =>
    if (s.link conn).opened then none
    else some { s.setLink conn { CommandLink.new with opened := true } with
      sessions := Function.update s.sessions imei (some conn) }
  | .disconnect imei => some { s with sessions := Function.update s.sessions imei none }
  | .take =>
    match s.subscriber, s.channel with
    | .idle, cmd :: channel =>
      match s.sessions cmd.imei with
      | none => some { s with channel := channel } -- the device is offline
      | some conn => some { s with channel := channel, subscriber := .writing conn cmd }
    | _, _ => none
  | .write ok =>
    match s.subscriber with
    | .writing conn cmd =>
      if ok then
        let sent : Downlink := ⟨cmd.commandID, buildCommandFrame (bytesOf cmd.command)⟩
        let l := s.link conn
        some { s.setLink conn { l with downstream := l.downstream ++ [sent] } with
          subscriber := .storing conn cmd
          written := s.written ++ [cmd.commandID] }
      else some { s with subscriber := .idle }
    | _ => none
  | .store =>
    match s.subscriber with
    | .storing conn cmd =>
      some { s.setLink conn { s.link conn with lastCommand := cmd.commandID } with
        subscriber := .marking cmd }
    | _ => none
  | .mark now =>
    match s.subscriber with
    | .marking cmd => some { s with
        rows := markDelivered now cmd.commandID s.rows
        subscriber := .idle }
    | _ => none
  | .answer conn payload =>
    let l := s.link conn
    match l.downstream, parseCommandPayload payload with
    | sent :: downstream, .returns [text] none =>
      some { s.setLink conn { l with
          downstream := downstream
          upstream := l.upstream ++ [⟨payload, some sent.commandID⟩] } with
        answered := s.answered ++ [(sent.commandID, text)] }
    | _, _ => none
  | .send conn payload =>
    let l := s.link conn
    some (s.setLink conn { l with upstream := l.upstream ++ [⟨payload, none⟩] })
  | .receive conn =>
    let l := s.link conn
    match l.responder, l.upstream with
    | .waiting, up :: upstream =>
      match responseText up.payload with
      | none => some (s.setLink conn { l with upstream := upstream })
      | some text =>
        some (s.setLink conn { l with
          upstream := upstream
          responder := .received text up.answers })
    | _, _ => none
  | .load conn =>
    let l := s.link conn
    match l.responder with
    | .received text answers =>
      let responder := if l.lastCommand > 0 then .loaded text answers l.lastCommand else .waiting
      some (s.setLink conn { l with responder := responder })
    | _ => none
  | .record conn now =>
    let l := s.link conn
    match l.responder with
    | .loaded text answers commandID =>
      some { s.setLink conn { l with responder := .recorded } with
        rows := markAcknowledged now text commandID s.rows
        recorded := s.recorded ++ [⟨answers, commandID, text⟩] }
    | _ => none
  | .clear conn =>
    let l := s.link conn
    match l.responder with
    | .recorded => some (s.setLink conn { l with lastCommand := 0, responder := .waiting })
    | _ => none

/-- The API and the ingest server, with an empty table and no connection at the beginning. -/
def commands (Conn : Type) [DecidableEq Conn] :
    Machine (CommandState Conn) (CommandEvent Conn) where
  init := ⟨[], 1, [], [], .idle, fun _ => none, fun _ => CommandLink.new, [], [], []⟩
  step := CommandState.step

end

/-! ### One device that answers -/

/-- Connections neither come nor go, and the device sends nothing but answers. -/
def CommandEvent.fromAnsweringDevice : CommandEvent Unit → Bool
  | .connect _ _ => false
  | .disconnect _ => false
  | .send _ _ => false
  | _ => true

/-- The only connection, of the device with the IMEI. -/
def CommandState.connected (imei : List UInt8) : CommandState Unit where
  rows := []
  nextID := 1
  unpublished := []
  channel := []
  subscriber := .idle
  sessions := Function.update (fun _ => none) imei (some ())
  link := fun _ => { CommandLink.new with opened := true }
  written := []
  answered := []
  recorded := []

/-- One connection, whose device answers every command with a single entry, in order. -/
def answering (imei : List UInt8) : Machine (CommandState Unit) (CommandEvent Unit) where
  init := CommandState.connected imei
  step s event := if event.fromAnsweringDevice then s.step event else none

end RudraNetra
