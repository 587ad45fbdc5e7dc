/-
**Copying one table.**

A table is read in a transaction of its own. Its columns are learned from the query for its rows,
the query is wrapped in a projection, and the rows are moved in batches; what was committed before a
fault stays and is counted.

A copy says what it needs next (`need`) and goes on when it is given the answer (`receive`), so that
between any two answers others can be given theirs.

* `receive_cases`: the answers that a copy can be given, and what it makes of them;
* `tableResult_names`: the result of a table has its names, however the copy ended.
-/

import SchemaFerry.Report.Basic
import SchemaFerry.Run.World
import SchemaFerry.Source.Server
import SchemaFerry.Target.Server

namespace SchemaFerry.Run

open SchemaFerry.Copy

variable {σ δ : Type}

/-- The servers of a run. -/
structure Servers (σ δ : Type) where
  source : Source.Server σ
  target : Target.Server δ

/-- What a copy needs to know beside its table. -/
structure CopyPlan where
  sourceSchema : String
  targetSchema : String
  settings : CopySettings
  seconds : String → UInt64

/-- What was committed of a table. -/
structure Committed where
  rows : Int
  batches : Nat
  deriving Repr, DecidableEq

/-- The rows of a table, ready to be fetched in a transaction, and the session and the statement that
write them. -/
structure OpenTable where
  transaction : Nat
  columns : List WireColumn
  session : Nat
  statement : String

/-- The columns of a projection with the types in which their values are sent. -/
def wireColumns (columns : List BoundColumn) (types : List String) : List WireColumn :=
  (columns.zip types).map fun (column, wireType) => ⟨column, wireType⟩

/-- Begins the transaction of a table and opens its rows, and a session to write them. -/
def openTable (servers : Servers σ δ) (plan : CopyPlan) (mapping : TableMapping) :
    Session (World σ δ) OpenTable := do
  let transaction ← World.onSource servers.source.beginReading
  World.onSource
    (servers.source.limitTime transaction (timeoutStatement plan.settings.timeoutSeconds))
  let base := baseQuery plan.sourceSchema mapping
  let columns ← World.onSource (servers.source.prepare transaction base)
  if columns.isEmpty then throw (.transfer mapping.source "query returns no columns")
  let types ← World.onSource (servers.source.openRows transaction (projection base columns))
  let session ← World.onTarget servers.target.openSession
  return ⟨transaction, wireColumns columns types, session,
    insertion plan.targetSchema mapping.target columns⟩

/-- The result of a table for the report. -/
def tableResult (mapping : TableMapping) (ended : Except Fault Unit) (committed : Committed)
    (seconds : UInt64) : Report.TableResult :=
  let outcome :=
    match ended with
    | .ok () => Report.Outcome.succeeded mapping.source
    | .error fault => Report.Outcome.failed mapping.source fault.message
  ⟨outcome, mapping.target, committed.rows, committed.batches, seconds⟩

/-! ### A copy between two answers -/

/-- Where a copy is: its table is not open yet, its rows are moved by the pump, or all is done. -/
inductive CopyStage where
  | opening
  | moving (table : OpenTable)
  | ended (result : Except Fault Unit)

/-- The copy of a table: how many rows are fetched at a time, the time that it takes, where it is,
and the pump that moves its rows. -/
structure TableCopy where
  mapping : TableMapping
  size : Nat
  seconds : UInt64
  stage : CopyStage
  pump : Pump Unit Unit Target.Row

/-- What a copy needs next: its table open, rows fetched or written, its transaction ended, or
nothing more. -/
inductive Need where
  | table
  | rows (table : OpenTable)
  | write (table : OpenTable) (rows : List Target.Row)
  | close (table : OpenTable)
  | nothing (result : Except Fault Unit)

/-- What a copy needs next whose pump is in a phase. -/
def Need.ofPhase (table : OpenTable) : PumpPhase Target.Row → Need
  | .fetching => rows table
  | .writing held => write table held
  | .ended (.ok ()) => close table
  | .ended (.error fault) => nothing (.error fault)

/-- How many kinds of steps a copy has before it that needs this. -/
def Need.stepsLeft : Need → Nat
  | table => 4
  | rows _ | write _ _ => 3
  | close _ => 2
  | nothing _ => 1

/-- How far a copy that needs this is from its next fetch. -/
def Need.movesLeft : Need → Nat
  | rows _ => 1
  | write _ _ => 2
  | _ => 0

/-- The answer to what a copy needed. -/
inductive Reply where
  | opened (table : Except Fault OpenTable)
  | fetched (rows : Except Fault (List Target.Row))
  | written (count : Except Fault Nat)
  | closed (result : Except Fault Unit)

/-- How many rows are committed with an answer. -/
def Reply.committed : Reply → Int
  | written (.ok count) => count
  | _ => 0

namespace TableCopy

/-- The copy of a table before its first step. -/
def fresh (batchSize : Nat) (seconds : UInt64) (mapping : TableMapping) : TableCopy :=
  ⟨mapping, Pump.fetchSize batchSize, seconds, .opening, .start () ()⟩

/-- What the copy needs next. -/
def need (copy : TableCopy) : Need :=
  match copy.stage with
  | .opening => .table
  | .moving table => .ofPhase table copy.pump.phase
  | .ended result => .nothing result

/-- The copy after an answer, unless it needs another one. -/
def receive (copy : TableCopy) (reply : Reply) : Option TableCopy :=
  match copy.need, reply with
  | .table, .opened (.ok table) => some { copy with stage := .moving table }
  | .table, .opened (.error fault) => some { copy with stage := .ended (.error fault) }
  | .rows _, .fetched rows => some { copy with pump := copy.pump.fetched copy.size () rows }
  | .write _ rows, .written count =>
    some { copy with pump := copy.pump.wrote copy.mapping.source copy.size rows () count }
  | .close _, .closed result => some { copy with stage := .ended result }
  | _, _ => none

/-- The copy after answers in turn. -/
def receiveAll (copy : TableCopy) (replies : List Reply) : Option TableCopy :=
  replies.foldlM receive copy

/-- The result of a copy that needs nothing more. -/
def result? (copy : TableCopy) : Option Report.TableResult :=
  match copy.need with
  | .nothing result =>
    some (tableResult copy.mapping result ⟨copy.pump.rows, copy.pump.batches⟩ copy.seconds)
  | _ => none

/-- Makes a call and gives its result as an answer. -/
def answer {α : Type} (call : Session (World σ δ) α) (reply : Except Fault α → Reply) :
    StateM (World σ δ) (Option Reply) := do
  return some (reply (← call.attempt))

/-- Asks the servers for what the copy needs, if it needs something. -/
def ask (servers : Servers σ δ) (plan : CopyPlan) (copy : TableCopy) :
    StateM (World σ δ) (Option Reply) :=
  match copy.need with
  | .table => answer (openTable servers plan copy.mapping) .opened
  | .rows table =>
    let rows := servers.source.rows table.transaction table.columns
    answer (World.onSource (rows.fetch copy.size)) .fetched
  | .write table rows =>
    let sink := (servers.target.writer table.session).sink table.statement
    answer (World.onTarget (sink.write rows)) .written
  | .close table => answer (World.onSource (servers.source.endReading table.transaction)) .closed
  | .nothing _ => return none

end TableCopy

/-! ### Lemmas -/

theorem Need.stepsLeft_ofPhase_le (table : OpenTable) (phase : PumpPhase Target.Row) :
    (ofPhase table phase).stepsLeft ≤ 3 := by
  match phase with
  | .fetching | .writing _ => exact Nat.le_refl 3
  | .ended (.ok ()) => exact (by decide : 2 ≤ 3)
  | .ended (.error fault) => exact (by decide : 1 ≤ 3)

theorem Need.stepsLeft_le (need : Need) : need.stepsLeft ≤ 4 := by
  cases need <;> simp [stepsLeft]

theorem Need.stepsLeft_pos (need : Need) : 0 < need.stepsLeft := by
  cases need <;> simp [stepsLeft]

/-- A copy that needs rows is moving them. -/
theorem TableCopy.phase_of_need_rows {copy : TableCopy} {table : OpenTable}
    (need : copy.need = .rows table) :
    copy.stage = .moving table ∧ copy.pump.phase = .fetching := by
  unfold TableCopy.need at need
  split at need
  · cases need
  · next held stage =>
    unfold Need.ofPhase at need
    split at need <;> cases need
    exact ⟨stage, ‹_›⟩
  · cases need

/-- A copy that needs rows written is moving them. -/
theorem TableCopy.phase_of_need_write {copy : TableCopy} {table : OpenTable}
    {rows : List Target.Row} (need : copy.need = .write table rows) :
    copy.stage = .moving table ∧ copy.pump.phase = .writing rows := by
  unfold TableCopy.need at need
  split at need
  · cases need
  · next held stage =>
    unfold Need.ofPhase at need
    split at need <;> cases need
    exact ⟨stage, ‹_›⟩
  · cases need

/-- **An answer** opens the table or ends the copy, takes the pump one step further, or ends the
copy with the end of its transaction. -/
theorem TableCopy.receive_cases {copy after : TableCopy} {reply : Reply}
    (received : copy.receive reply = some after) :
    (∃ table, copy.need = .table ∧ reply = .opened (.ok table) ∧
        after = { copy with stage := .moving table }) ∨
      (∃ fault, copy.need = .table ∧ reply = .opened (.error fault) ∧
        after = { copy with stage := .ended (.error fault) }) ∨
      (∃ table rows, copy.need = .rows table ∧ reply = .fetched rows ∧
        after = { copy with pump := copy.pump.fetched copy.size () rows }) ∨
      (∃ table rows count, copy.need = .write table rows ∧ reply = .written count ∧
        after = { copy with
          pump := copy.pump.wrote copy.mapping.source copy.size rows () count }) ∨
      ∃ table result, copy.need = .close table ∧ reply = .closed result ∧
        after = { copy with stage := .ended result } := by
  unfold receive at received
  split at received
  · next table need => exact .inl ⟨table, need, rfl, by cases received; rfl⟩
  · next fault need => exact .inr (.inl ⟨fault, need, rfl, by cases received; rfl⟩)
  · next table rows need =>
    exact .inr (.inr (.inl ⟨table, rows, need, rfl, by cases received; rfl⟩))
  · next table rows count need =>
    exact .inr (.inr (.inr (.inl ⟨table, rows, count, need, rfl, by cases received; rfl⟩)))
  · next table result need =>
    exact .inr (.inr (.inr (.inr ⟨table, result, need, rfl, by cases received; rfl⟩)))
  · cases received

/-- **An answer brings a copy closer to its end**: to another kind of steps, or from a fetch that
gave rows to their write, or from there to the next fetch. -/
theorem TableCopy.stepsLeft_receive {copy after : TableCopy} {reply : Reply}
    (received : copy.receive reply = some after) :
    after.need.stepsLeft < copy.need.stepsLeft ∨
      after.need.stepsLeft = copy.need.stepsLeft ∧
        ((∃ rows, rows ≠ [] ∧ reply = .fetched (.ok rows) ∧ copy.need.movesLeft = 1 ∧
            after.need.movesLeft = 2) ∨
          ∃ count, reply = .written count ∧ copy.need.movesLeft = 2 ∧
            after.need.movesLeft = 1) := by
  rcases receive_cases received with ⟨table, need, _, rfl⟩ | ⟨fault, need, _, rfl⟩ |
    ⟨table, rows, need, rfl, rfl⟩ | ⟨table, rows, count, need, rfl, rfl⟩ |
    ⟨table, result, need, _, rfl⟩
  · rw [need]
    exact .inl (Nat.lt_succ_of_le (Need.stepsLeft_ofPhase_le table copy.pump.phase))
  · rw [need]
    exact .inl (by decide : 1 < 4)
  · obtain ⟨stage, phase⟩ := phase_of_need_rows need
    rw [need]
    simp only [TableCopy.need, stage]
    match rows with
    | .error fault => exact .inl (by decide : 1 < 3)
    | .ok [] => exact .inl (by decide : 2 < 3)
    | .ok (row :: rest) => exact .inr ⟨rfl, .inl ⟨row :: rest, List.cons_ne_nil _ _, rfl, rfl, rfl⟩⟩
  · obtain ⟨stage, phase⟩ := phase_of_need_write need
    rw [need]
    simp only [TableCopy.need, stage]
    match count with
    | .error fault => exact .inl (by decide : 1 < 3)
    | .ok count =>
      simp only [Pump.wrote]
      by_cases short : rows.length < copy.size
      · rw [if_pos short]
        exact .inl (by decide : 2 < 3)
      · rw [if_neg short]
        exact .inr ⟨rfl, .inr ⟨.ok count, rfl, rfl, rfl⟩⟩
  · rw [need]
    exact .inl (by decide : 1 < 2)

theorem TableCopy.answer_eq_some {α : Type} {call : Session (World σ δ) α}
    {as : Except Fault α → Reply} {reply : Reply} {world between : World σ δ}
    (given : (answer call as).run world = (some reply, between)) :
    reply = as (call.result world).1 ∧ between = (call.result world).2 := by
  have shape : (answer call as).run world =
    (some (as (call.result world).1), (call.result world).2) := rfl
  rw [shape] at given
  cases given
  exact ⟨rfl, rfl⟩

/-- **A copy that asks is given what it needs.** A fetch that gives rows leaves fewer of them, and a
write does nothing to the source. -/
theorem TableCopy.ask_eq_some {servers : Servers σ δ} {plan : CopyPlan} {copy : TableCopy}
    {reply : Reply} {world between : World σ δ}
    (asked : (copy.ask servers plan).run world = (some reply, between)) :
    (copy.receive reply).isSome = true ∧
      (∀ rows, reply = .fetched (.ok rows) → rows ≠ [] →
        servers.source.rowsLeft between.source < servers.source.rowsLeft world.source) ∧
      ∀ count, reply = .written count → between.source = world.source := by
  unfold ask at asked
  split at asked
  · next need =>
    obtain ⟨rfl, rfl⟩ := answer_eq_some asked
    refine ⟨?_, nofun, nofun⟩
    rcases ((openTable servers plan copy.mapping).result world).1 with fault | table
    · simp only [receive, need, Option.isSome_some]
    · simp only [receive, need, Option.isSome_some]
  · next table need =>
    obtain ⟨rfl, rfl⟩ := answer_eq_some asked
    refine ⟨by simp only [receive, need, Option.isSome_some], fun rows given present => ?_, nofun⟩
    have fetched : ((servers.source.rows table.transaction table.columns).fetch copy.size).result
        world.source = (.ok rows, _) := Prod.ext (Reply.fetched.inj given) rfl
    exact (servers.source.rows table.transaction table.columns).left_lt fetched present
  · next table rows need =>
    obtain ⟨rfl, rfl⟩ := answer_eq_some asked
    exact ⟨by simp only [receive, need, Option.isSome_some], nofun, fun _ _ => rfl⟩
  · next table need =>
    obtain ⟨rfl, rfl⟩ := answer_eq_some asked
    exact ⟨by simp only [receive, need, Option.isSome_some], nofun, nofun⟩
  · cases asked

/-- A copy that does not ask needs nothing more, and asking did nothing. -/
theorem TableCopy.ask_eq_none {servers : Servers σ δ} {plan : CopyPlan} {copy : TableCopy}
    {world between : World σ δ} (asked : (copy.ask servers plan).run world = (none, between)) :
    (∃ result, copy.need = .nothing result) ∧ between = world := by
  unfold ask at asked
  split at asked
  · cases asked
  · cases asked
  · cases asked
  · cases asked
  · next result need =>
    cases asked
    exact ⟨⟨result, need⟩, rfl⟩

/-- A copy that needs nothing more has a result. -/
theorem TableCopy.result?_of_need {copy : TableCopy} {result : Except Fault Unit}
    (need : copy.need = .nothing result) :
    copy.result? = some (tableResult copy.mapping result ⟨copy.pump.rows, copy.pump.batches⟩
      copy.seconds) := by
  rw [result?, need]

/-- The result of a table has its names, however the copy ended. -/
theorem tableResult_names (mapping : TableMapping) (ended : Except Fault Unit)
    (committed : Committed) (seconds : UInt64) :
    (tableResult mapping ended committed seconds).outcome.item = mapping.source ∧
      (tableResult mapping ended committed seconds).target = mapping.target := by
  cases ended <;> exact ⟨rfl, rfl⟩

end SchemaFerry.Run
