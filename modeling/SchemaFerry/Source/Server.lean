/-
**What the source is asked.**

The calls to a server of the source, by what they are for. Its catalog describes a table by four of
them; a table without columns is not there to be copied. Connections are made through a pool, whose
fault says what the connection was for.
-/

import SchemaFerry.Address.Endpoint
import SchemaFerry.Copy.Pump
import SchemaFerry.Copy.Query
import SchemaFerry.Copy.Wire
import SchemaFerry.Schema.Catalog

namespace SchemaFerry.Source

open SchemaFerry.Schema

/-- The octets of the values of a row. -/
abbrev WireRow := List (Option (List UInt8))

/-- The calls to a server of the source. Reading begins a transaction on a connection of its own,
whose number the calls about it name. A select is prepared to learn its columns; a projection is
opened to fetch rows from, fewer of which are left after every fetch that gives some. -/
structure Server (σ : Type) where
  connect : SourcePool → Session σ Unit
  probe : Session σ Unit
  tryLock : Int → Session σ Bool
  unlock : Int → Session σ Bool
  listTables : String → Session σ (List String)
  columns : String → String → Session σ (List Column)
  primaryKey : String → String → Session σ (List String)
  indexes : String → String → Session σ (List Index)
  foreignKeys : String → String → Session σ (List ForeignKey)
  countRows : String → Session σ Int
  beginReading : Session σ Nat
  limitTime : Nat → String → Session σ Unit
  prepare : Nat → String → Session σ (List Copy.BoundColumn)
  openRows : Nat → String → Session σ (List String)
  fetch : Nat → Nat → Session σ (List WireRow)
  endReading : Nat → Session σ Unit
  rowsLeft : σ → Nat
  rowsLeft_lt : ∀ {transaction count : Nat} {state after : σ} {rows : List WireRow},
    (fetch transaction count).result state = (.ok rows, after) → rows ≠ [] →
      rowsLeft after < rowsLeft state

namespace Server

variable {σ : Type}

/-- The fault of a pool that could not make a connection. -/
def poolFault (context : String) (fault : Fault) : Fault :=
  .pool ("Error occurred while creating a new object: " ++ fault.reason) context

/-- Makes a connection for a purpose. -/
def checkOut (server : Server σ) (pool : SourcePool) (context : String) : Session σ Unit :=
  let connected :=
    if pool.address.isComplete then server.connect pool
    else Session.ofExcept (.error (.source "invalid configuration" []))
  connected.mapFault (poolFault context)

/-- Opens a pool of connections and tries one of them. -/
def openPool (server : Server σ) (connection : Connection) (size : Nat) : Session σ Unit := do
  let pool ← Session.ofExcept (connection.sourcePool size)
  server.checkOut pool "testing PostgreSQL source connection"
  server.probe

/-- Tries to take the lock under a key, on a connection of its own; says whether it was free. -/
def acquireLock (server : Server σ) (connection : Connection) (key : Int) : Session σ Bool := do
  let pool ← Session.ofExcept (connection.sourcePool 1)
  server.checkOut pool "getting connection for migration lock"
  server.tryLock key

/-- A column that draws from a sequence is filled automatically. -/
def withDraws (column : Column) : Column :=
  { column with isAutoIncrement := column.isAutoIncrement || column.hasSequenceDefault }

/-- Describes a table. -/
def describe (server : Server σ) (schema name : String) : Session σ Table := do
  let columns := (← server.columns schema name).map withDraws
  if columns.isEmpty then
    let table := (Table.named schema name).fullName
    throw (.extraction ("table " ++ table ++ " has no visible columns"))
  let primaryKey ← server.primaryKey schema name
  let indexes ← server.indexes schema name
  let foreignKeys ← server.foreignKeys schema name
  return (⟨schema, name, columns, primaryKey, indexes, foreignKeys, none⟩ : Table).withSequence

/-- The catalog of a server. -/
def catalog (server : Server σ) : Catalog σ where
  listTables := server.listTables
  describe := server.describe
  rowCount schema table := server.countRows (Copy.countQuery schema table)

/-- The rows that a projection was opened for in a transaction, read as values. -/
def rows (server : Server σ) (transaction : Nat) (columns : List Copy.WireColumn) :
    Copy.RowSource σ (List Copy.Value) where
  fetch count := do
    let rows ← server.fetch transaction (min count 0x7FFFFFFF)
    Session.ofExcept (rows.mapM (Copy.readRow columns))
  left := server.rowsLeft
  left_lt := by
    intro count state after values given present
    rw [Session.result_bind] at given
    rcases shape : (server.fetch transaction (min count 0x7FFFFFFF)).result state with
      ⟨result, between⟩
    rw [shape] at given
    match result with
    | .error fault => simp at given
    | .ok rows =>
      simp only [Session.ofExcept, Session.result_ofFunction, Prod.mk.injEq] at given
      obtain ⟨read, rfl⟩ := given
      refine server.rowsLeft_lt shape fun empty => present ?_
      subst empty
      simpa [List.mapM_nil, pure, Except.pure] using read.symm

end Server

/-- The server that cannot be reached. -/
def unreachable (σ : Type) : Server σ :=
  let refused {α : Type} : Session σ α :=
    Session.ofExcept (.error (.source "error connecting to server" []))
  { connect := fun _ => refused
    probe := refused
    tryLock := fun _ => refused
    unlock := fun _ => refused
    listTables := fun _ => refused
    columns := fun _ _ => refused
    primaryKey := fun _ _ => refused
    indexes := fun _ _ => refused
    foreignKeys := fun _ _ => refused
    countRows := fun _ => refused
    beginReading := refused
    limitTime := fun _ _ => refused
    prepare := fun _ _ => refused
    openRows := fun _ _ => refused
    fetch := fun _ _ => refused
    endReading := fun _ => refused
    rowsLeft := fun _ => 0
    rowsLeft_lt := by
      intro transaction count state after rows given present
      simp [refused, Session.ofExcept] at given }

end SchemaFerry.Source
