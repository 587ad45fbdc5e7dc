/-
**A source in memory.**

Tables with what the catalog says of them, the rows that a projection of them gives, and a lock. Every
call is noted, and one that is planned to fail does nothing else, except that the lock is given back
with the connection that holds it. The catalog's statements are named by what they ask for, other
statements by their text.

* `unread_fetch`: a fetch takes rows from the front of those of its transaction.
-/

import SchemaFerry.PlannedFailure
import SchemaFerry.Source.Server

namespace SchemaFerry.Source

open SchemaFerry.Schema

/-- A call to the source. -/
inductive Call where
  | connect
  | askForTls
  | statement (text : String)
  | prepare (label : String)
  | execute (label : String) (bound : List String)
  | lock (key : Int)
  | unlock (key : Int)
  | fetch (count : Nat)
  deriving Repr, DecidableEq

/-- The name of a call, by which its failure is planned. -/
def Call.name : Call → String
  | connect => "connect"
  | askForTls => "ssl_request"
  | statement text => text
  | prepare label | execute label _ => label
  | lock _ => "lock"
  | unlock _ => "unlock"
  | fetch _ => "fetch"

/-- A table: what the catalog says of it, its count of rows, its name in statements, a query that
stands for it, and the columns and rows of a projection with the types in which values are sent. -/
structure Relation where
  name : String
  columns : List Column
  primaryKey : List String
  indexes : List Index
  foreignKeys : List ForeignKey
  count : Int
  place : String
  query : Option String
  bound : List Copy.WireColumn
  rows : List WireRow
  deriving Repr, DecidableEq

/-- The query that gives the rows of a table. -/
def Relation.base (relation : Relation) : String :=
  relation.query.getD ("SELECT * FROM " ++ relation.place)

/-- What was done to a lock. -/
inductive LockCall where
  | tried (granted : Bool)
  | gaveBack
  deriving Repr, DecidableEq

/-- Whether a lock is held after calls, of which the last comes first. -/
def isHeld : List LockCall → Bool
  | [] => false
  | .tried granted :: rest => granted || isHeld rest
  | .gaveBack :: _ => false

/-- A source in memory: the listing of its tables, the tables, whether the lock can be had and what
was done to it, the rows that are still to be fetched in each transaction, and the calls; of the
calls the last comes first. -/
structure Memory where
  listing : List String
  relations : List Relation
  isFree : Bool
  locks : List LockCall
  unread : List (List WireRow)
  failures : List PlannedFailure
  calls : List Call
  deriving Repr

namespace Memory

/-- The fault of a call that the source refuses. -/
def refusal (message : String) : Fault :=
  .source "db error" ["ERROR: " ++ message]

/-- The source with a call noted and counted by the plans, and the message of its failure. -/
def noting (call : Call) (memory : Memory) : Option String × Memory :=
  let struck := PlannedFailure.strike call.name memory.failures
  (struck.1, { memory with calls := call :: memory.calls, failures := struck.2 })

/-- A call: it is noted, and answered unless it is planned to fail. -/
def serve {α : Type} (call : Call) (answer : Memory → Except Fault α × Memory) : Session Memory α :=
  Session.ofFunction fun memory =>
    match noting call memory with
    | (some message, noted) => (.error (refusal message), noted)
    | (none, noted) => answer noted

/-- A call with nothing to do but to succeed. -/
def acknowledge (call : Call) : Session Memory Unit :=
  serve call fun memory => (.ok (), memory)

/-- A statement that is prepared and then executed with values; it only looks. -/
def ask {α : Type} (label : String) (run : Call) (answer : Memory → Except Fault α) :
    Session Memory α := do
  acknowledge (.prepare label)
  serve run fun memory => (answer memory, memory)

/-- What the catalog says of a table; a table that is not there has nothing. -/
def catalogOf {α : Type} (part : Relation → List α) (name : String) (memory : Memory) : List α :=
  ((memory.relations.find? (·.name == name)).map part).getD []

/-- Asks the catalog about a table. -/
def askCatalog {α : Type} (label : String) (part : Relation → List α) (schema name : String) :
    Session Memory (List α) :=
  ask label (.execute label [schema, name]) fun memory => .ok (memory.catalogOf part name)

/-- What is found, or a refusal. -/
def orRefused {α : Type} : Option α → Except Fault α
  | some value => .ok value
  | none => .error (refusal "unknown statement")

/-- The table that a projection is of. -/
def projected? (memory : Memory) (text : String) : Option Relation :=
  memory.relations.find? fun relation =>
    (" FROM (" ++ relation.base ++ ") AS src").toList.isSuffixOf text.toList

/-- Begins a transaction without rows to be fetched. -/
def beginReading : Session Memory Nat :=
  serve (.statement "START TRANSACTION READ ONLY") fun memory =>
    (.ok memory.unread.length, { memory with unread := memory.unread ++ [[]] })

/-- Opens the rows of a projection. -/
def openRows (transaction : Nat) (text : String) : Session Memory (List String) := do
  acknowledge (.prepare text)
  Session.ofFunction fun memory =>
    match memory.projected? text with
    | some relation =>
      (.ok (relation.bound.map (·.wireType)),
        { memory with unread := memory.unread.set transaction relation.rows })
    | none => (.error (refusal "unknown statement"), memory)

/-- Fetches rows. -/
def fetch (transaction count : Nat) : Session Memory (List WireRow) :=
  serve (.fetch count) fun memory =>
    match memory.unread[transaction]? with
    | some rows =>
      (.ok (rows.take count),
        { memory with unread := memory.unread.set transaction (rows.drop count) })
    | none => (.error (refusal "no transaction"), memory)

/-- How many rows are still to be fetched. -/
def rowsLeft (memory : Memory) : Nat :=
  memory.unread.flatten.length

/-- Noting a call leaves the unread rows as they are. -/
theorem noting_unread (call : Call) (memory : Memory) :
    (noting call memory).2.unread = memory.unread := rfl

/-- What a fetch gives, and what it leaves to be fetched in its transaction. -/
theorem fetch_eq_ok {transaction count : Nat} {memory after : Memory} {rows : List WireRow}
    (fetched : (fetch transaction count).result memory = (.ok rows, after)) :
    ∃ held, memory.unread[transaction]? = some held ∧ rows = held.take count ∧
      after.unread = memory.unread.set transaction (held.drop count) := by
  rcases shape : noting (.fetch count) memory with ⟨failure, noted⟩
  have same : noted.unread = memory.unread := by
    rw [← noting_unread (.fetch count) memory, shape]
  simp only [fetch, serve, Session.result_ofFunction, shape] at fetched
  cases failure with
  | some message => cases fetched
  | none =>
    simp only [same] at fetched
    split at fetched
    · next held found =>
      cases fetched
      exact ⟨held, found, rfl, rfl⟩
    · cases fetched

/-- A fetch takes rows from the front of those of its transaction. -/
theorem unread_fetch {transaction count : Nat} {memory after : Memory} {rows : List WireRow}
    (fetched : (fetch transaction count).result memory = (.ok rows, after)) :
    ∃ rest, memory.unread[transaction]? = some (rows ++ rest) ∧
      after.unread = memory.unread.set transaction rest := by
  obtain ⟨held, found, rfl, changed⟩ := fetch_eq_ok fetched
  exact ⟨held.drop count, by rw [found, List.take_append_drop], changed⟩

/-- There are fewer rows to be fetched after some were. -/
theorem rowsLeft_fetch {transaction count : Nat} {memory after : Memory} {rows : List WireRow}
    (fetched : (fetch transaction count).result memory = (.ok rows, after)) (present : rows ≠ []) :
    after.rowsLeft < memory.rowsLeft := by
  obtain ⟨rest, found, changed⟩ := unread_fetch fetched
  obtain ⟨within, held⟩ := List.getElem?_eq_some_iff.mp found
  obtain ⟨front, back, before, _, later⟩ := @List.exists_of_set _ _ rest _ within
  have positive := List.length_pos_iff.2 present
  rw [rowsLeft, rowsLeft, changed, later, before, held]
  simp only [List.flatten_append, List.flatten_cons, List.length_append]
  omega

/-- Tries to take the lock. -/
def tryLock (key : Int) : Session Memory Bool := do
  acknowledge (.prepare "lock")
  serve (.lock key) fun memory =>
    let granted := memory.isFree && !isHeld memory.locks
    (.ok granted, { memory with locks := .tried granted :: memory.locks })

/-- Gives the lock back, also if that fails; says whether it was held. -/
def unlock (key : Int) : Session Memory Bool :=
  Session.ofFunction fun memory =>
    let asked := ask "unlock" (.unlock key) fun memory => .ok (isHeld memory.locks)
    let (answer, after) := asked.result memory
    (answer, { after with locks := .gaveBack :: after.locks })

/-- The source in memory as a server. -/
def server : Server Memory where
  connect pool := do
    if pool.tls.encrypts then acknowledge .askForTls
    acknowledge .connect
  probe := acknowledge (.statement "SELECT 1")
  tryLock := tryLock
  unlock := unlock
  listTables schema :=
    ask "list_tables" (.execute "list_tables" [schema]) fun memory => .ok memory.listing
  columns := askCatalog "columns" (·.columns)
  primaryKey := askCatalog "primary_key" (·.primaryKey)
  indexes := askCatalog "indexes" (·.indexes)
  foreignKeys := askCatalog "foreign_keys" (·.foreignKeys)
  countRows text := ask text (.execute text []) fun memory =>
    orRefused ((memory.relations.find? fun relation =>
      "SELECT COUNT(*)::int8 FROM " ++ relation.place == text).map (·.count))
  beginReading := beginReading
  limitTime _ text := acknowledge (.statement text)
  prepare _ text := ask text (.execute text []) fun memory =>
    orRefused ((memory.relations.find? fun relation => relation.base == text).map fun relation =>
      relation.bound.map (·.column))
  openRows := openRows
  fetch := fetch
  endReading _ := acknowledge (.statement "COMMIT")
  rowsLeft := rowsLeft
  rowsLeft_lt := rowsLeft_fetch

end Memory

end SchemaFerry.Source
