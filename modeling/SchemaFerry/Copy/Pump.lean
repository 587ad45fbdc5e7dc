/-
**Moving rows in batches.**

A pump fetches a batch of rows from a source and writes it to a sink, in turn, until a fetch gives
nothing or less than was asked for, or until one of them fails. It counts the batches and rows that
were written and keeps a journal of what it did. `step` does one of these things, `run` all of them.

* `measure_step`: every step brings the pump closer to its end, so that it ends;
* `run_ended`: a pump that was run has ended.
-/

import SchemaFerry.Session

namespace SchemaFerry.Copy

/-- A source of rows: up to a count of them at a time. Its measure shrinks with every fetch that
gives rows. -/
structure RowSource (σ α : Type) where
  fetch : Nat → Session σ (List α)
  left : σ → Nat
  left_lt : ∀ {count : Nat} {state after : σ} {rows : List α},
    (fetch count).result state = (.ok rows, after) → rows ≠ [] → left after < left state

/-- A sink for batches of rows, each of which is written as a whole or not at all; it says how many
rows it wrote. -/
structure BatchSink (δ α : Type) where
  write : List α → Session δ Nat

/-- What a pump did: a fetch or a write with its result, or the note of a batch that is in place. -/
inductive PumpEvent (α : Type) where
  | fetch (asked : Nat) (rows : Except Fault (List α))
  | write (rows : List α) (written : Except Fault Nat)
  | commit (written : Nat)

/-- What a pump does next: a fetch, a write of the rows that it holds, or nothing more. -/
inductive PumpPhase (α : Type) where
  | fetching
  | writing (rows : List α)
  | ended (result : Except Fault Unit)

/-- A pump between the states of a source and a sink, with what it counted and its journal, the last
event first. -/
structure Pump (σ δ α : Type) where
  source : σ
  sink : δ
  phase : PumpPhase α
  rows : Int
  batches : Nat
  journal : List (PumpEvent α)

namespace Pump

variable {σ δ α : Type}

/-- A pump before its first fetch. -/
def start (source : σ) (sink : δ) : Pump σ δ α :=
  ⟨source, sink, .fetching, 0, 0, []⟩

/-- How many rows are asked for at a time: at least one. -/
def fetchSize (batchSize : Nat) : Nat :=
  max batchSize 1

/-- The fault of a table of which a batch could not be written. -/
def batchFault (table : String) (batch : Nat) (fault : Fault) : Fault :=
  .transfer table ("batch " ++ toString batch ++ " failed: " ++ fault.message)

/-- The pump after a fetch. -/
def fetched (pump : Pump σ δ α) (size : Nat) (source : σ) : Except Fault (List α) → Pump σ δ α
  | .error fault =>
    { pump with
      source
      phase := .ended (.error fault)
      journal := .fetch size (.error fault) :: pump.journal }
  | .ok [] =>
    { pump with
      source
      phase := .ended (.ok ())
      journal := .fetch size (.ok []) :: pump.journal }
  | .ok (row :: rows) =>
    { pump with
      source
      phase := .writing (row :: rows)
      journal := .fetch size (.ok (row :: rows)) :: pump.journal }

/-- The pump after a write. -/
def wrote (pump : Pump σ δ α) (table : String) (size : Nat) (rows : List α) (sink : δ) :
    Except Fault Nat → Pump σ δ α
  | .error fault =>
    { pump with
      sink
      phase := .ended (.error (batchFault table (pump.batches + 1) fault))
      journal := .write rows (.error fault) :: pump.journal }
  | .ok written =>
    { pump with
      sink
      phase := if rows.length < size then .ended (.ok ()) else .fetching
      rows := pump.rows + written
      batches := pump.batches + 1
      journal := .commit written :: .write rows (.ok written) :: pump.journal }

/-- Does what is next. -/
def step (source : RowSource σ α) (sink : BatchSink δ α) (table : String) (size : Nat)
    (pump : Pump σ δ α) : Pump σ δ α :=
  match pump.phase with
  | .fetching =>
    let (rows, after) := (source.fetch size).result pump.source
    pump.fetched size after rows
  | .writing rows =>
    let (written, after) := (sink.write rows).result pump.sink
    pump.wrote table size rows after written
  | .ended _ => pump

/-- Whether a pump has ended. -/
def hasEnded (pump : Pump σ δ α) : Bool :=
  match pump.phase with
  | .ended _ => true
  | _ => false

/-- How far a pump is from its end at most. -/
def measure (source : RowSource σ α) (pump : Pump σ δ α) : Nat :=
  match pump.phase with
  | .fetching => 2 * source.left pump.source + 1
  | .writing _ => 2 * source.left pump.source + 2
  | .ended _ => 0

/-- Every step brings a pump that has not ended closer to its end. -/
theorem measure_step (source : RowSource σ α) (sink : BatchSink δ α) (table : String) (size : Nat)
    {pump : Pump σ δ α} (active : pump.hasEnded = false) :
    (pump.step source sink table size).measure source < pump.measure source := by
  obtain ⟨origin, outlet, phase, rows, batches, journal⟩ := pump
  cases phase with
  | ended result => simp [hasEnded] at active
  | fetching =>
    simp only [step]
    rcases shape : (source.fetch size).result origin with ⟨result, after⟩
    match result with
    | .error fault => simp [fetched, measure]
    | .ok [] => simp [fetched, measure]
    | .ok (row :: rows) =>
      have shorter := source.left_lt shape (by simp)
      simp only [fetched, measure]
      omega
  | writing held =>
    simp only [step]
    rcases (sink.write held).result outlet with ⟨result, after⟩
    match result with
    | .error fault => simp [wrote, measure]
    | .ok written =>
      simp only [wrote, measure]
      split <;> simp_all
      split at * <;> simp_all

/-- Does everything up to the end. -/
def run (source : RowSource σ α) (sink : BatchSink δ α) (table : String) (size : Nat)
    (pump : Pump σ δ α) : Pump σ δ α :=
  if _active : pump.hasEnded = false then
    run source sink table size (pump.step source sink table size)
  else pump
termination_by pump.measure source
decreasing_by exact measure_step source sink table size ‹_›

/-- A pump that was run has ended. -/
theorem run_ended (source : RowSource σ α) (sink : BatchSink δ α) (table : String) (size : Nat)
    (pump : Pump σ δ α) : (pump.run source sink table size).hasEnded = true := by
  fun_induction run source sink table size pump with
  | case1 pump active hypothesis => exact hypothesis
  | case2 pump ended => simpa using ended

/-- The result of a pump that has ended. -/
def result (pump : Pump σ δ α) : Except Fault Unit :=
  match pump.phase with
  | .ended result => result
  | _ => .ok ()

end Pump

/-- Moves the rows of a source to a sink in batches. -/
def pumpRows {σ δ α : Type} (source : RowSource σ α) (sink : BatchSink δ α) (table : String)
    (batchSize : Nat) (origin : σ) (outlet : δ) : Pump σ δ α :=
  (Pump.start origin outlet).run source sink table (Pump.fetchSize batchSize)

end SchemaFerry.Copy
