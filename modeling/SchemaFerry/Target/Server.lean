/-
**What the destination is asked.**

The calls to a server of the destination, by what they are for. Work is done in a session that is
taken from a pool for it. A batch of rows is filled row by row, written by one statement and
committed; if it cannot be filled or written, what was done is rolled back.

* `writeBatch_fault_of_insert`: after a statement that fails, the batch is rolled back and nothing
  is committed.
-/

import SchemaFerry.Constraints.Basic
import SchemaFerry.Copy.Pump
import SchemaFerry.Copy.Value
import SchemaFerry.Sequences.Basic
import SchemaFerry.Settings.Family

namespace SchemaFerry.Target

/-- A row of values. -/
abbrev Row := List Copy.Value

/-- A pool of sessions of the destination. -/
structure Pool where
  user : String
  password : String
  address : String
  size : Nat
  deriving Repr, DecidableEq

/-- The most sessions that a pool can be asked for. -/
def maxPoolSize : Nat := 0xFFFFFFFF

/-- The pool for a connection of the settings. -/
def Pool.ofConnection (connection : Connection) (size : Nat) : Pool :=
  ⟨connection.user, connection.password, oracleAddress connection.address, min size maxPoolSize⟩

/-- The calls by which a session writes rows. A batch is built for a statement with room for a count
of rows, which are appended to it before it is executed. -/
structure Writer (δ : Type) where
  buildBatch : String → Nat → Session δ Unit
  appendRow : Row → Session δ Unit
  execute : String → List Row → Session δ Unit
  commit : Session δ Unit
  rollback : Session δ Unit

/-- The calls to a server of the destination. A session that is checked out of the pool is nobody
else's; the calls in it that have to do with its transaction name its number. -/
structure Server (δ : Type) where
  createPool : Pool → Session δ Unit
  checkOut : Session δ Nat
  ping : Nat → Session δ Unit
  prepareSession : Nat → Session δ Unit
  listConstraints : String → Session δ (List (Constraints.Key × String))
  alterConstraints : String → Constraints.Action → Session δ Unit
  listSequences : String → Session δ (List String)
  sequences : String → Sequences.Operations δ
  writer : Nat → Writer δ

/-! ### Batches -/

namespace Writer

variable {δ : Type}

/-- Appends rows to the batch that was built, in turn. -/
def appendRows (writer : Writer δ) : List Row → Session δ Unit
  | [] => pure ()
  | row :: rest => do
    writer.appendRow row
    writer.appendRows rest

/-- Inserts rows by one statement, as a batch. -/
def insert (writer : Writer δ) (statement : String) (rows : List Row) : Session δ Unit := do
  writer.buildBatch statement rows.length
  writer.appendRows rows
  writer.execute statement rows

/-- Writes a batch of rows and commits it; says how many rows there were. Nothing is done for a
batch without rows. -/
def writeBatch (writer : Writer δ) (statement : String) (rows : List Row) : Session δ Nat :=
  if rows.isEmpty then pure 0
  else do
    (writer.insert statement rows).onFault writer.rollback
    writer.commit
    return rows.length

/-- The sink that writes the batches of a table. -/
def sink (writer : Writer δ) (statement : String) : Copy.BatchSink δ Row where
  write := writer.writeBatch statement

/-- After a statement that fails, the batch is rolled back and nothing is committed. -/
theorem writeBatch_fault_of_insert {writer : Writer δ} {statement : String} {rows : List Row}
    {state after : δ} {fault : Fault} (present : rows ≠ [])
    (failed : (writer.insert statement rows).result state = (.error fault, after)) :
    (writer.writeBatch statement rows).result state =
      (.error fault, (writer.rollback.result after).2) := by
  have rest : rows.isEmpty = false := List.isEmpty_eq_false_iff.mpr present
  simp only [writeBatch, rest, Bool.false_eq_true, if_false]
  rw [Session.result_bind, Session.result_onFault_error failed]

end Writer

/-! ### Sessions and what is done in them -/

namespace Server

variable {δ : Type}

/-- The fault of a pool in some work. -/
def poolFault (context : String) (fault : Fault) : Fault :=
  .pool fault.reason context

/-- Creates a pool of sessions and tries one of them. -/
def openPool (server : Server δ) (connection : Connection) (size : Nat) : Session δ Unit := do
  (server.createPool (Pool.ofConnection connection size)).mapFault
    (poolFault "creating Oracle session pool")
  let session ← server.checkOut.mapFault (poolFault "testing Oracle connection")
  server.ping session

/-- Takes a session from the pool and prepares it; says which one that is. -/
def openSession (server : Server δ) : Session δ Nat := do
  let session ← server.checkOut.mapFault (poolFault "getting Oracle connection")
  server.prepareSession session
  return session

/-- The operations on the foreign keys of a schema in a session. -/
def constraints (server : Server δ) (session : Nat) (schema : String) :
    Constraints.Operations δ where
  list := server.listConstraints schema
  alter := server.alterConstraints schema
  commit := (server.writer session).commit

/-- Turns the foreign keys of a schema off or on, in a session of its own. -/
def toggle (server : Server δ) (schema : String) (action : Constraints.Action) :
    Session δ (List Report.Outcome) := do
  let session ← server.openSession
  Constraints.perform (server.constraints session schema) action

/-- Catches the sequences of a schema up, in a session and by a task of its own; a crash of the task
is its fault. -/
def synchronize (server : Server δ) (schema : String) : Session δ (List Report.Outcome) := do
  let _ ← server.openSession
  let sequences ← server.listSequences schema
  match ← Sequences.synchronizeAll (server.sequences schema) sequences with
  | some outcomes => return outcomes
  | none => throw (.task Sequences.overflowText)

end Server

/-- The server that cannot be reached. -/
def unreachable (δ : Type) : Server δ :=
  let refused {α : Type} : Session δ α :=
    Session.ofExcept (.error (.target "error connecting to server"))
  { createPool := fun _ => refused
    checkOut := refused
    ping := fun _ => refused
    prepareSession := fun _ => refused
    listConstraints := fun _ => refused
    alterConstraints := fun _ _ => refused
    listSequences := fun _ => refused
    sequences := fun _ => ⟨fun _ => refused, fun _ => refused, fun _ => refused, fun _ => refused,
      fun _ _ => refused⟩
    writer := fun _ => ⟨fun _ _ => refused, fun _ => refused, fun _ _ => refused, refused,
      refused⟩ }

end SchemaFerry.Target
