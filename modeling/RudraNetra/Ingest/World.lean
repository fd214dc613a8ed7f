/-
What a connection handler acts on, and what answers it.

A handler sends statements to the database, publishes events on Redis and writes to its
socket, and any of these can fail.  `Env` decides which do, by a number that counts the
calls of each kind, and it is where clocks are read; every pattern of failures is some
`Env`.  `World` is what the handler changes.
-/
import RudraNetra.Store.Database

namespace RudraNetra

/-- Which calls succeed, and what the clocks show. -/
structure Env where
  /-- Whether a statement is carried out. -/
  execOk : Nat → Bool
  publishOk : Nat → Bool
  writeOk : Nat → Bool
  /-- The database's `NOW()` for a statement. -/
  databaseNow : Nat → Int
  /-- The process clock at a reading of it. -/
  timeNow : Nat → Int

/-- The counters of the metrics endpoint that handling a frame changes. -/
structure IngestStats where
  records : Nat
  parseErrors : Nat
  batchErrors : Nat
  positionsStored : Nat
  publishErrors : Nat

structure World where
  db : Database
  stats : IngestStats
  /-- Statements sent so far. -/
  statements : Nat
  /-- Readings of the process clock so far. -/
  readings : Nat
  /-- Events handed to Redis, and whether it took them. -/
  published : List (LiveEvent × Bool)
  /-- Byte strings written to the socket, and whether that succeeded. -/
  written : List (List UInt8 × Bool)

/-- Sends a statement: the number of affected rows, or nothing if it failed. -/
def World.exec (env : Env) (w : World) (stmt : Statement) : World × Option Nat :=
  let sent := { w with statements := w.statements + 1 }
  if env.execOk w.statements then
    match w.db.exec (env.databaseNow w.statements) stmt with
    | some (db, affected) => ({ sent with db := db }, some affected)
    | none => (sent, none)
  else (sent, none)

/-- Writes to the socket. -/
def World.write (env : Env) (w : World) (bytes : List UInt8) : World :=
  { w with written := w.written ++ [(bytes, env.writeOk w.written.length)] }

end RudraNetra
