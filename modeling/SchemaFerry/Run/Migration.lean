/-
**A run.**

A run takes the lock, does its work and gives the lock back whatever came of the work. The work
opens both databases, lists the tables and counts their rows; from then on no fault ends it: the
foreign keys are disabled, the tables copied, the sequences caught up and the foreign keys enabled,
and what failed is in the report. The tables are copied at the same time, in the turns that are
planned for the run.
-/

import SchemaFerry.Number.Binary64
import SchemaFerry.Number.Whole
import SchemaFerry.Run.Turns

namespace SchemaFerry.Run

open SchemaFerry.Report

variable {σ δ : Type}

/-- The name and the times of a run, which a clock gives. -/
structure Timing where
  runId : String
  started : Time.Moment
  completed : Time.Moment
  seconds : UInt64
  tableSeconds : String → UInt64

/-- What a run is to do. -/
structure Job where
  source : Connection
  target : Connection
  settings : CopySettings
  timing : Timing

/-- The outcome of a step that failed as a whole. -/
def orFailed (step : String) : Except Fault (List Outcome) → List Outcome
  | .ok outcomes => outcomes
  | .error fault => [.failed step fault.message]

/-- The count of rows a second, its fraction cut off. -/
def rowsPerSecond (rows : Int) (seconds : UInt64) : Int :=
  let duration := Float.ofBits seconds
  if 0 < duration then
    Number.truncatedInt Number.minInt64 Number.maxInt64 (Number.ofInt rows / duration).toBits
  else 0

/-- A step that cannot end the run. -/
def bestEffort (step : Step) (label : String) (call : Session δ (List Outcome)) :
    StateM (World σ δ) (List Outcome) := do
  World.record step
  return orFailed label (← (World.onTarget call).attempt)

/-- The tables to copy and their count of rows, if they could all be counted. -/
def discoverTables (servers : Servers σ δ) (job : Job) :
    Session (World σ δ) (List Copy.TableMapping × Option Int) := do
  World.note .list
  let mappings ←
    World.onSource (Copy.discover servers.source.catalog job.source.schema job.settings)
  World.note .count
  let counted := servers.source.catalog.countRows job.source.schema 0 (mappings.map (·.source))
  let total ← World.onSource (ExceptT.lift counted)
  return (mappings, total)

/-- Everything up to the first change of the destination: opens both databases and finds the tables
to copy. -/
def prepare (servers : Servers σ δ) (job : Job) :
    Session (World σ δ) (List Copy.TableMapping × Option Int) := do
  World.note .openSource
  World.onSource (servers.source.openPool job.source job.settings.poolSize)
  World.note .openTarget
  World.onTarget (servers.target.openPool job.target job.settings.poolSize)
  discoverTables servers job

/-- The schema of the destination. -/
def Job.targetSchema (job : Job) : String :=
  Identifier.normalize job.target.schema

/-- How the tables are copied. -/
def Job.plan (job : Job) : CopyPlan :=
  ⟨job.source.schema, job.targetSchema, job.settings, job.timing.tableSeconds⟩

/-- The report of a run whose tables are done. -/
def Fleet.report (job : Job) (estimate : Option Int) (fleet : Fleet)
    (disabled sequences enabled : List Outcome) : CopyReport where
  runId := job.timing.runId
  started := job.timing.started
  completed := job.timing.completed
  seconds := job.timing.seconds
  sourceSchema := job.source.schema
  targetSchema := job.targetSchema
  estimatedRows := estimate
  rows := fleet.counted
  rowsPerSecond := rowsPerSecond fleet.counted job.timing.seconds
  tables := fleet.results
  tally := Tally.ofOutcomes (fleet.results.map (·.outcome))
  disabled
  sequences
  enabled

/-- Disables the foreign keys of the destination. -/
def disableKeys (servers : Servers σ δ) (job : Job) : StateM (World σ δ) (List Outcome) :=
  bestEffort .disableKeys "disable foreign keys" (servers.target.toggle job.targetSchema .disable)

/-- Catches the sequences of the destination up. -/
def catchUpSequences (servers : Servers σ δ) (job : Job) : StateM (World σ δ) (List Outcome) :=
  bestEffort .catchUpSequences "synchronize sequences"
    (servers.target.synchronize job.targetSchema)

/-- Enables the foreign keys of the destination. -/
def enableKeys (servers : Servers σ δ) (job : Job) : StateM (World σ δ) (List Outcome) :=
  bestEffort .enableKeys "enable foreign keys" (servers.target.toggle job.targetSchema .enable)

/-- Everything from the first change of the destination on; no fault ends it. -/
def copyEverything (servers : Servers σ δ) (job : Job) (turns : List Fleet.Turn)
    (mappings : List Copy.TableMapping) (estimate : Option Int) :
    StateM (World σ δ) CopyReport := do
  let disabled ← disableKeys servers job
  let fleet ← Fleet.follow servers job.plan turns (.ofMappings job.plan mappings)
  World.record (.enter .finalizing)
  let sequences ← catchUpSequences servers job
  let enabled ← enableKeys servers job
  return fleet.report job estimate disabled sequences enabled

/-- The work of a run. -/
def work (servers : Servers σ δ) (job : Job) (turns : List Fleet.Turn) :
    Session (World σ δ) CopyReport := do
  let (mappings, estimate) ← prepare servers job
  copyEverything servers job turns mappings estimate

/-- The outcome of a run that did not get the lock. -/
def lockedOut : RunOutcome :=
  .skipped "another process holds the migration lock"

/-- The outcome of a run that was asked for while another was going on. -/
def busy : RunOutcome :=
  .skipped "a migration is already running in this process"

/-- Takes the lock, unless it is held elsewhere; says whether it was taken. -/
def takeLock (servers : Servers σ δ) (job : Job) : Session (World σ δ) Bool := do
  World.note .askForLock
  let isFree ← World.onSource (servers.source.acquireLock job.source job.settings.lockKey)
  if isFree then World.note .gotLock
  return isFree

/-- Gives the lock back. -/
def giveBackLock (servers : Servers σ δ) (key : Int) : Session (World σ δ) Unit := do
  World.note .releaseLock
  let _ ← World.onSource (servers.source.unlock key)

/-- Does work under the lock and gives the lock back; a fault of giving it back does not count. -/
def exclusively (servers : Servers σ δ) (key : Int) (work : Session (World σ δ) CopyReport) :
    Session (World σ δ) RunOutcome := do
  World.note (.enter .running)
  let report ← work.andAlways (giveBackLock servers key).ignoringFault
  return .completed report

/-- A whole run, but for the return to idleness. -/
def migrate (servers : Servers σ δ) (job : Job) (turns : List Fleet.Turn) :
    Session (World σ δ) RunOutcome := do
  World.note (.enter .lockPending)
  if ← takeLock servers job then
    exclusively servers job.settings.lockKey (work servers job turns)
  else return lockedOut

/-- A run as the service does it: it is let in unless another one is going on, and ends in
idleness. -/
def start (servers : Servers σ δ) (job : Job) (turns : List Fleet.Turn) (isBusy : Bool) :
    StateM (World σ δ) (Except Fault RunOutcome) := do
  if isBusy then return .ok busy
  let outcome ← (migrate servers job turns).attempt
  World.record (.enter .idle)
  return outcome

/-- A run that is let in and for which no turns are planned. -/
def runOnce (servers : Servers σ δ) (job : Job) : StateM (World σ δ) (Except Fault RunOutcome) :=
  start servers job [] false

end SchemaFerry.Run
