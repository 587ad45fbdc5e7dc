/-
**The world of a run.**

The states of the two databases and a journal of the steps that runs took, the last first. The
phases of a run are steps too; an observer who looks at them only while a run waits sees fewer.
-/

import SchemaFerry.Json.Basic
import SchemaFerry.Session

namespace SchemaFerry.Run

/-- Where a run is. -/
inductive Phase where
  | idle
  | lockPending
  | running
  | finalizing
  deriving Repr, DecidableEq

/-- The name of a phase. -/
def Phase.name : Phase → String
  | idle => "idle"
  | lockPending => "lock_pending"
  | running => "running"
  | finalizing => "finalizing"

/-- A step of a run. -/
inductive Step where
  | enter (phase : Phase)
  | askForLock
  | gotLock
  | releaseLock
  | openSource
  | openTarget
  | list
  | count
  | disableKeys
  | copy (table : String)
  | copied (table : String)
  | catchUpSequences
  | enableKeys
  deriving Repr, DecidableEq

/-- The phase that a step enters. -/
def Step.phase? : Step → Option Phase
  | enter phase => some phase
  | _ => none

/-- The states of the source and the destination, and the journal. -/
structure World (σ δ : Type) where
  source : σ
  target : δ
  journal : List Step

namespace World

variable {σ δ α : Type}

/-- The world with a step noted. -/
def noted (world : World σ δ) (step : Step) : World σ δ :=
  { world with journal := step :: world.journal }

/-- Notes a step. -/
def record (step : Step) : StateM (World σ δ) Unit :=
  modify (·.noted step)

/-- Notes a step among calls that may fail. -/
def note (step : Step) : Session (World σ δ) Unit :=
  ExceptT.lift (record step)

/-- A call to the source. -/
def onSource (call : Session σ α) : Session (World σ δ) α :=
  Session.ofFunction fun world =>
    let (value, source) := call.result world.source
    (value, { world with source })

/-- A call to the destination. -/
def onTarget (call : Session δ α) : Session (World σ δ) α :=
  Session.ofFunction fun world =>
    let (value, target) := call.result world.target
    (value, { world with target })

/-- The phases that runs entered, in order. -/
def phases (world : World σ δ) : List Phase :=
  world.journal.reverse.filterMap Step.phase?

/-! ### Lemmas -/

@[simp]
theorem result_note (step : Step) (world : World σ δ) :
    (note step).result world = (.ok (), world.noted step) := rfl

@[simp]
theorem result_onSource (call : Session σ α) (world : World σ δ) :
    (onSource call).result world =
      ((call.result world.source).1, { world with source := (call.result world.source).2 }) := rfl

@[simp]
theorem result_onTarget (call : Session δ α) (world : World σ δ) :
    (onTarget call).result world =
      ((call.result world.target).1, { world with target := (call.result world.target).2 }) := rfl

end World

/-- What an observer sees who looks after each group of phases was entered: the last phase of a
group, if the group has any. -/
def observed (groups : List (List Phase)) : List Phase :=
  groups.filterMap List.getLast?

end SchemaFerry.Run
