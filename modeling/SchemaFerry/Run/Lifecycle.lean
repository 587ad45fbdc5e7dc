/-
**Runs that share a lock.**

Runs are asked for at any time and of any number of services, each in a process of its own; all of
them work on one source and one destination. A service lets in one run at a time. A run that was let
in does what there is to be done one thing after the other, and an event lets one run do the next
thing, so that a list of events is one interleaving. What it comes to is up to the servers, which are
asked each time.

* `Stage.step_cases`: what a run does next;
* `Move.of_cases`: what the next thing makes of a run, its service and the world.
-/

import SchemaFerry.Run.Work

namespace SchemaFerry.Run

open SchemaFerry.Report

variable {σ δ : Type}

/-! ### Where runs stand -/

/-- How a run ended that was let in: the lock was held by another, asking for it failed, or the work
was done and came to a result. -/
inductive Finish where
  | lockedOut
  | unlocked (fault : Fault)
  | worked (result : Except Fault CopyReport)

/-- The outcome of a run that was let in. -/
def Finish.outcome : Finish → Except Fault RunOutcome
  | lockedOut => .ok Run.lockedOut
  | unlocked fault => .error fault
  | worked result => result.map .completed

/-- Where a run stands. It is turned away if its service is busy. From `entered` to `idling` it
occupies its service, and it holds the lock when that is given to it and while it works. -/
inductive Stage where
  | asked
  | turnedAway
  | entered
  | locking
  | locked
  | working (stage : WorkStage)
  | leaving (finish : Finish)
  | idling (finish : Finish)
  | ended (finish : Finish)

namespace Stage

/-- Whether a run holds the lock. -/
def holdsLock : Stage → Bool
  | locked | working _ => true
  | _ => false

/-- Whether a run occupies its service. -/
def occupies : Stage → Bool
  | asked | turnedAway | ended _ => false
  | _ => true

/-- Whether a run has something to do but to enter and to leave its service. -/
def isUnderWay : Stage → Bool
  | asked | turnedAway | idling _ | ended _ => false
  | _ => true

/-- The outcome of a run that is over. -/
def outcome? : Stage → Option (Except Fault RunOutcome)
  | turnedAway => some (.ok busy)
  | ended finish => some finish.outcome
  | _ => none

/-- Where a run stands that asked for the lock, by the answer. -/
def ofAnswer : Except Fault Bool → Stage
  | .ok true => locked
  | .ok false => leaving .lockedOut
  | .error fault => leaving (.unlocked fault)

/-- Does what is next. A fault of giving the lock back does not count. -/
def step (servers : Servers σ δ) (job : Job) (turns : List Fleet.Turn) :
    Stage → StateM (World σ δ) Stage
  | entered => do
    World.record (.enter .lockPending)
    return locking
  | locking => do
    return ofAnswer (← (takeLock servers job).attempt)
  | locked => do
    World.record (.enter .running)
    return working .preparing
  | working stage =>
    match stage.result? with
    | some result => do
      let _ ← (giveBackLock servers job.settings.lockKey).attempt
      return leaving (.worked result)
    | none => do
      return working (← stage.step servers job turns)
  | leaving finish => do
    World.record (.enter .idle)
    return idling finish
  | stage => return stage

/-- **The steps of a run**, from one world to another. -/
inductive IsStep (servers : Servers σ δ) (job : Job) (turns : List Fleet.Turn)
    (world : World σ δ) : Stage → Stage → World σ δ → Prop
  | begin : IsStep servers job turns world entered locking (world.noted (.enter .lockPending))
  | lock {after : World σ δ}
    (given : (takeLock servers job).result world = (.ok true, after)) :
    IsStep servers job turns world locking locked after
  | lockOut {after : World σ δ}
    (missed : (takeLock servers job).result world = (.ok false, after)) :
    IsStep servers job turns world locking (leaving .lockedOut) after
  | fail {fault : Fault} {after : World σ δ}
    (failed : (takeLock servers job).result world = (.error fault, after)) :
    IsStep servers job turns world locking (leaving (.unlocked fault)) after
  | work : IsStep servers job turns world locked (working .preparing)
      (world.noted (.enter .running))
  | go {stage later : WorkStage} {after : World σ δ}
    (step : stage.IsStep servers job turns world later after) :
    IsStep servers job turns world (working stage) (working later) after
  | release (result : Except Fault CopyReport) :
    IsStep servers job turns world (working (.done result)) (leaving (.worked result))
      ((giveBackLock servers job.settings.lockKey).result world).2
  | idle (finish : Finish) :
    IsStep servers job turns world (leaving finish) (idling finish) (world.noted (.enter .idle))
  | rest {stage : Stage} (still : stage.isUnderWay = false) :
    IsStep servers job turns world stage stage world

/-- **What a run does next** is one of these. -/
theorem step_cases (servers : Servers σ δ) (job : Job) (turns : List Fleet.Turn) (stage : Stage)
    (world : World σ δ) :
    IsStep servers job turns world stage ((stage.step servers job turns).run world).1
      ((stage.step servers job turns).run world).2 := by
  cases stage with
  | entered => exact .begin
  | locking =>
    rw [step, Session.run_attempt_bind_pure]
    rcases answered : (takeLock servers job).result world with ⟨answer, after⟩
    match answer with
    | .error fault => exact .fail answered
    | .ok true => exact .lock answered
    | .ok false => exact .lockOut answered
  | locked => exact .work
  | working stage =>
    have goes := stage.step_cases servers job turns world
    rcases spent : stage.result? with _ | result
    · rcases made : (stage.step servers job turns).run world with ⟨later, after⟩
      rw [made] at goes
      simp only [step, spent, StateT.run_bind, made]
      exact .go goes
    · simp only [step, spent]
      rw [WorkStage.eq_done_of_result? spent]
      exact .release result
  | leaving finish => exact .idle finish
  | asked | turnedAway | idling | ended => exact .rest rfl

end Stage

/-! ### Runs and services -/

/-- A run: the service it was asked of, what it is to do, where it stands, and what it has noted,
the last step first. -/
structure Member where
  service : Nat
  job : Job
  turns : List Fleet.Turn
  stage : Stage
  journal : List Step

/-- A run that was just asked for. -/
def Member.fresh (service : Nat) (job : Job) (turns : List Fleet.Turn) : Member :=
  ⟨service, job, turns, .asked, []⟩

/-- The phase that a run has entered last. -/
def Member.phase (member : Member) : Phase :=
  (member.journal.findSome? Step.phase?).getD .idle

/-- A service: the run that occupies it and the phase that it shows. -/
structure Service where
  occupant : Option Nat
  phase : Phase
  deriving Repr, DecidableEq

/-- A service without a run. -/
def Service.vacant : Service :=
  ⟨none, .idle⟩

/-- The phase that was entered last between two worlds. -/
def World.entered? (before after : World σ δ) : Option Phase :=
  (after.journal.take (after.journal.length - before.journal.length)).findSome? Step.phase?

/-- What becomes of a run, its service and the world. -/
structure Move (σ δ : Type) where
  member : Member
  service : Service
  world : World σ δ

namespace Move

/-- A run enters its service if that is free, and is turned away if not. -/
def entering (run : Nat) (member : Member) (service : Service) (world : World σ δ) : Move σ δ :=
  if service.occupant.isNone then
    ⟨{ member with stage := .entered }, { service with occupant := some run }, world⟩
  else ⟨{ member with stage := .turnedAway }, service, world⟩

/-- A run is at a stage in a world; its service shows the phase that the run has entered last. -/
def going (member : Member) (service : Service) (before : World σ δ) (stage : Stage)
    (after : World σ δ) : Move σ δ :=
  ⟨{ member with stage, journal := after.journal },
    { service with phase := (before.entered? after).getD service.phase }, after⟩

/-- The next thing that a run does. -/
def of (servers : Servers σ δ) (run : Nat) (member : Member) (service : Service)
    (world : World σ δ) : Move σ δ :=
  match member.stage with
  | .asked => entering run member service world
  | .idling finish =>
    ⟨{ member with stage := .ended finish }, { service with occupant := none }, world⟩
  | stage =>
    let (next, after) := (stage.step servers member.job member.turns).run world
    going member service world next after

end Move

/-- **The moves of a run**, by where it stands. -/
inductive IsMove (servers : Servers σ δ) (run : Nat) (member : Member) (service : Service)
    (world : World σ δ) : Move σ δ → Prop
  | enter (stage : member.stage = .asked) (free : service.occupant = none) :
    IsMove servers run member service world
      ⟨{ member with stage := .entered }, { service with occupant := some run }, world⟩
  | turnAway (stage : member.stage = .asked) (busy : service.occupant ≠ none) :
    IsMove servers run member service world
      ⟨{ member with stage := .turnedAway }, service, world⟩
  | step {next : Stage} {after : World σ δ}
    (step : member.stage.IsStep servers member.job member.turns world next after) :
    IsMove servers run member service world (.going member service world next after)
  | leave {finish : Finish} (stage : member.stage = .idling finish) :
    IsMove servers run member service world
      ⟨{ member with stage := .ended finish }, { service with occupant := none }, world⟩

/-- **The next thing that a run does** is one of its moves. -/
theorem Move.of_cases (servers : Servers σ δ) (run : Nat) (member : Member) (service : Service)
    (world : World σ δ) :
    IsMove servers run member service world (Move.of servers run member service world) := by
  unfold Move.of
  split
  · next stage =>
    unfold Move.entering
    split
    · next free => exact .enter stage (Option.isNone_iff_eq_none.mp free)
    · next busy => exact .turnAway stage fun free => busy (Option.isNone_iff_eq_none.mpr free)
  · next stage => exact .leave stage
  · exact .step (member.stage.step_cases servers member.job member.turns world)

/-! ### Systems -/

/-- The two databases, all runs in the order in which they were asked for, and all services. -/
structure System (σ δ : Type) where
  source : σ
  target : δ
  members : List Member
  services : Nat → Service

/-- An event: a run is asked for, or one does the next thing. -/
inductive Event where
  | ask (service : Nat) (job : Job) (turns : List Fleet.Turn)
  | act (run : Nat)

/-- Whether an event is that a run does the next thing. -/
def Event.isActOf (run : Nat) : Event → Bool
  | act other => other == run
  | ask .. => false

namespace System

/-- A system in which no run has been asked for. -/
def empty (source : σ) (target : δ) : System σ δ :=
  ⟨source, target, [], fun _ => .vacant⟩

/-- The world of a run: the databases, and what it has noted itself. -/
def world (system : System σ δ) (member : Member) : World σ δ :=
  ⟨system.source, system.target, member.journal⟩

/-- The system after a run made a move. -/
def moved (system : System σ δ) (run : Nat) (move : Move σ δ) : System σ δ where
  source := move.world.source
  target := move.world.target
  members := system.members.set run move.member
  services := fun service =>
    if service = move.member.service then move.service else system.services service

/-- The system after a run did the next thing. -/
def act (servers : Servers σ δ) (system : System σ δ) (run : Nat) : System σ δ :=
  match system.members[run]? with
  | none => system
  | some member =>
    system.moved run
      (.of servers run member (system.services member.service) (system.world member))

/-- The system after an event. -/
def after (servers : Servers σ δ) (system : System σ δ) : Event → System σ δ
  | .ask service job turns =>
    { system with members := system.members ++ [.fresh service job turns] }
  | .act run => system.act servers run

/-- The system after events in turn. -/
def afterAll (servers : Servers σ δ) (system : System σ δ) (events : List Event) : System σ δ :=
  events.foldl (after servers) system

end System

end SchemaFerry.Run
