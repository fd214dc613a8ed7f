/-
A device and the server, and the connections between them.

The device keeps a frame until it reads an acknowledgement of all its records, and sends
the frames it keeps as often as it likes, on any connection that it has open.  An
acknowledgement is only a number, so the device takes the answers on a connection to be
for the frames it sent there, in order.  The server has a handler for each connection,
which takes one frame after the other through `handleAVLFrame`: decoding, one statement
for each chunk, the answer.  The steps of all connections come in any order.

A connection carries whole frames: how they are cut out of the byte stream does not
depend on how the bytes arrive.  Once a write has failed, later writes to that
connection fail too.
-/
import RudraNetra.Ingest.Handler
import RudraNetra.Lib.Component

namespace RudraNetra

open Wire

/-- A frame that a device sends: a payload that decodes. -/
structure Report (deviceID : Int) where
  payload : List UInt8
  positions : List Position
  decodes : parseFrame payload deviceID = .returns positions none

/-- One handling of a frame: the positions of the batch, and how many of them are stored. -/
structure Attempt (Frame : Type) where
  frame : Frame
  positions : List Position
  stored : Nat

/-- A handling that is not over, and the chunks that are not sent. -/
structure Handling (Frame : Type) where
  attempt : Attempt Frame
  chunks : List (List Position)

/-- A connection.  What is said of attempts in `answers` and `finished` is not looked at by any
step; it records what happened. -/
structure Link (Frame : Type) where
  /-- The device has not closed its end. -/
  opened : Bool
  /-- The handler has not returned. -/
  alive : Bool
  /-- The handler can still write: it has not returned, and no write has failed. -/
  writable : Bool
  /-- The frames whose answers the device waits for. -/
  awaited : List Frame
  /-- The frames that the handler has not taken. -/
  inflight : List Frame
  handling : Option (Handling Frame)
  /-- The answers that the device has not read, and the attempts they are about. -/
  answers : List (Attempt Frame × List UInt8)
  finished : List (Attempt Frame)

/-- What all connections share: the database, and what the device has thrown away. -/
structure Shared (Frame : Type) where
  db : Database
  discarded : List Frame

inductive LinkEvent (Frame : Type) where
  /-- The device sends a frame it keeps. -/
  | send (frame : Frame)
  /-- The device closes its end. -/
  | close
  /-- The handler ends, whatever it is doing. -/
  | lose
  /-- The handler takes a frame, decodes it and normalises the times. -/
  | take (clock : Nat → Int)
  /-- The handler sends a chunk; it is stored at some time, or the statement fails. -/
  | chunk (outcome : Option Int)
  /-- The handler writes the acknowledgement. -/
  | answer (ok : Bool)
  /-- The device reads an acknowledgement. -/
  | hear

section

variable {Frame : Type}

def Link.fresh : Link Frame := ⟨true, true, true, [], [], none, [], []⟩

/-- The attempts that were made on a connection. -/
def Link.attempts (l : Link Frame) : List (Attempt Frame) :=
  l.finished ++ (l.handling.map (·.attempt)).toList

/-- The connection with its handler at an attempt. -/
def Link.busy (l : Link Frame) (a : Attempt Frame) (chunks : List (List Position)) : Link Frame :=
  { l with handling := some ⟨a, chunks⟩ }

theorem Link.busy_attempts (l : Link Frame) (a : Attempt Frame) (chunks : List (List Position)) :
    (l.busy a chunks).attempts = l.finished ++ [a] := rfl

theorem Link.eq_busy (l : Link Frame) {a : Attempt Frame} {chunks : List (List Position)}
    (h : l.handling = some ⟨a, chunks⟩) : l = l.busy a chunks := by
  rw [Link.busy, ← h]

/-- The connection after the answer to an attempt; `ok` if it could be written. -/
def Link.answered (l : Link Frame) (a : Attempt Frame) (ok : Bool) : Link Frame :=
  let sent := l.writable && ok
  { l with
    writable := sent
    handling := none
    answers := if sent then l.answers ++ [(a, acknowledge a.stored)] else l.answers
    finished := l.finished ++ [a] }

variable [DecidableEq Frame] {deviceID : Int} (report : Frame → Report deviceID)

def Link.step (sh : Shared Frame) (l : Link Frame) :
    LinkEvent Frame → Option (Link Frame × Shared Frame)
  | .send frame =>
    if l.opened ∧ frame ∉ sh.discarded then
      some ({ l with awaited := l.awaited ++ [frame], inflight := l.inflight ++ [frame] }, sh)
    else none
  | .close => some ({ l with opened := false }, sh)
  | .lose =>
    some ({ l with
      alive := false
      writable := false
      handling := none
      finished := l.attempts }, sh)
  | .take clock =>
    match l.alive, l.handling, l.inflight with
    | true, none, frame :: rest =>
      match parseFrame (report frame).payload deviceID with
      | .returns positions none =>
        let positions := (normalise clock positions 0).1
        some ({ l with inflight := rest }.busy ⟨frame, positions, 0⟩ (chunks positions), sh)
      | _ => some ({ l with inflight := rest }, sh)
    | _, _, _ => none
  | .chunk outcome =>
    match l.handling with
    | some ⟨a, chunk :: rest⟩ =>
      match outcome.bind fun now => sh.db.exec now (.insertPositions (batchStatement chunk)) with
      | some (db, affected) =>
        some (l.busy { a with stored := a.stored + affected } rest, { sh with db := db })
      | none => some (l.busy a [], sh)
    | _ => none
  | .answer ok =>
    match l.handling with
    | some ⟨a, []⟩ => some (l.answered a ok, sh)
    | _ => none
  | .hear =>
    match l.opened, l.awaited, l.answers with
    | true, frame :: awaited, (_, bytes) :: answers =>
      some ({ l with awaited := awaited, answers := answers },
        if beNat bytes = (report frame).positions.length then
          { sh with discarded := frame :: sh.discarded }
        else sh)
    | _, _, _ => none

/-- A connection, beside others that share the rest. -/
def connection : Component (Shared Frame) (Link Frame) (LinkEvent Frame) where
  fresh := Link.fresh
  step := Link.step report

/-- The shared state and all connections there have been. -/
abbrev Delivery (Frame : Type) : Type := Component.State (Shared Frame) (Link Frame)

/-- The device, the server and the connections, with some database and no frame thrown away at
the beginning. -/
def delivery (db : Database) : Machine (Delivery Frame) (Component.Event (LinkEvent Frame)) :=
  (connection report).system ⟨db, []⟩

end

end RudraNetra
