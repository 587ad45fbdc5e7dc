/-
**What a step of a run notes, and what it does to the lock.**

Of what is noted, some steps are seen from outside: the phases, and the dealings with the lock. They
are fixed by where a run stands (`Stage.course`), and a step of a run notes what leads from one
course to the next (`Stage.IsStep.exists_notes`).

* **`Stage.IsStep.exists_calls`** — a step of a run does nothing to the lock, tries in vain to take
  it, takes it while it is free, or gives it back after its work; what it has done up to a stage is
  fixed by the stage (`Stage.Called`).
-/

import SchemaFerry.Proofs.Run.Moves
import SchemaFerry.Run.Lifecycle

namespace SchemaFerry.Run

open SchemaFerry.Copy SchemaFerry.Report SchemaFerry.Source

variable {σ δ : Type} {servers : Servers σ δ} {job : Job} {turns : List Fleet.Turn}
  {world after : World σ δ}

/-! ### What is noted -/

/-- Whether a step is seen from outside: it shows a phase or deals with the lock. -/
def Step.isShared : Step → Bool
  | enter _ | askForLock | gotLock | releaseLock => true
  | _ => false

/-- The steps that are seen from outside. -/
def sharedSteps (steps : List Step) : List Step :=
  steps.filter Step.isShared

/-- The preparation shows nothing. -/
theorem sharedSteps_of_prepare {steps : List Step}
    (front : steps <+: [.openSource, .openTarget, .list, .count]) : sharedSteps steps = [] := by
  refine List.filter_eq_nil_iff.mpr fun step member => ?_
  have all : ∀ step ∈ [Step.openSource, .openTarget, .list, .count], ¬ step.isShared = true := by
    decide
  exact all step (front.subset member)

/-- The tables show nothing. -/
theorem Fleet.Happens.exists_unshared {plan : CopyPlan} {fleet later : Fleet} {event : Fleet.Event}
    (happens : Happens servers plan fleet world event later after) :
    ∃ notes, world.Notes notes after ∧ sharedSteps notes = [] := by
  cases happens with
  | start => exact ⟨[.copy _], rfl, rfl⟩
  | leave | crash => exact ⟨[.copied _], rfl, rfl⟩
  | reply copy _ asked _ =>
    have same := journal_ask servers plan copy world
    rw [asked] at same
    exact ⟨[], same, rfl⟩

theorem Fleet.exists_unshared_take {plan : CopyPlan} {fleet later : Fleet} {turn : Fleet.Turn}
    (taken : (fleet.take servers plan turn).run world = (later, after)) :
    ∃ notes, world.Notes notes after ∧ sharedSteps notes = [] := by
  rcases take_cases servers plan fleet turn world with
    nothing | ⟨_, _, _, same, happens, _⟩
  · cases nothing.symm.trans taken
    exact ⟨[], rfl, rfl⟩
  · cases same.symm.trans taken
    exact happens.exists_unshared

/-! ### The course of a run -/

/-- Whether the work has shown that it is finalizing. -/
def WorkStage.hasFinalized : WorkStage → Bool
  | catchingUp .. | enabling .. | done (.ok _) => true
  | preparing | disabling .. | copying .. | done (.error _) => false

/-- What a run has shown that got the lock, up to the end of its work. -/
def underLock (hasFinalized : Bool) : List Step :=
  [.enter .lockPending, .askForLock, .gotLock, .enter .running] ++
    if hasFinalized then [.enter .finalizing] else []

/-- What a run has shown up to the end of its dealings with the lock. -/
def Finish.course : Finish → List Step
  | lockedOut | unlocked _ => [.enter .lockPending, .askForLock]
  | worked result => underLock result.isOk ++ [.releaseLock]

/-- **What a run has shown up to a stage.** -/
def Stage.course : Stage → List Step
  | asked | turnedAway | entered => []
  | locking => [.enter .lockPending]
  | locked => [.enter .lockPending, .askForLock, .gotLock]
  | working stage => underLock stage.hasFinalized
  | leaving finish => finish.course
  | idling finish | ended finish => finish.course ++ [.enter .idle]

/-- A step of the work shows at most that it is finalizing. -/
theorem WorkStage.IsStep.exists_notes {stage next : WorkStage}
    (step : stage.IsStep servers job turns world next after) :
    ∃ notes, world.Notes notes after ∧
      underLock next.hasFinalized = underLock stage.hasFinalized ++ sharedSteps notes := by
  cases step with
  | stop failed =>
    obtain ⟨notes, noted, front, _⟩ := notes_prepare failed
    exact ⟨notes, noted, by rw [sharedSteps_of_prepare front]; rfl⟩
  | prepare found =>
    obtain ⟨notes, noted, front, _⟩ := notes_prepare found
    exact ⟨notes, noted, by rw [sharedSteps_of_prepare front]; rfl⟩
  | disable made => exact ⟨[.disableKeys], notes_bestEffort made, rfl⟩
  | turn _ taken =>
    obtain ⟨notes, noted, nothing⟩ := Fleet.exists_unshared_take taken
    exact ⟨notes, noted, by rw [nothing]; rfl⟩
  | finalize => exact ⟨[.enter .finalizing], rfl, rfl⟩
  | catchUp made => exact ⟨[.catchUpSequences], notes_bestEffort made, rfl⟩
  | enable made => exact ⟨[.enableKeys], notes_bestEffort made, rfl⟩
  | rest result => exact ⟨[], rfl, (List.append_nil _).symm⟩

/-- **A step of a run shows what leads from one course to the next.** -/
theorem Stage.IsStep.exists_notes {stage next : Stage}
    (step : stage.IsStep servers job turns world next after) :
    ∃ notes, world.Notes notes after ∧ next.course = stage.course ++ sharedSteps notes := by
  cases step with
  | begin => exact ⟨[.enter .lockPending], rfl, rfl⟩
  | lock given => exact ⟨[.askForLock, .gotLock], (takeLock_cases given).1, rfl⟩
  | lockOut missed => exact ⟨[.askForLock], (takeLock_cases missed).1, rfl⟩
  | fail failed => exact ⟨[.askForLock], (takeLock_cases failed).1, rfl⟩
  | work => exact ⟨[.enter .running], rfl, rfl⟩
  | go step => exact step.exists_notes
  | release result =>
    refine ⟨[.releaseLock], ?_, ?_⟩
    · rw [result_giveBackLock]
      rfl
    · cases result <;> rfl
  | idle finish => exact ⟨[.enter .idle], rfl, rfl⟩
  | rest => exact ⟨[], rfl, (List.append_nil _).symm⟩

/-! ### What is done to the lock -/

/-- **What a run has done to the lock** up to the end of its dealings with it, the last call first: a
try that failed may have got there or not. -/
def Finish.Called (calls : List LockCall) : Finish → Prop
  | lockedOut => calls = [.tried false]
  | unlocked _ => calls = [] ∨ calls = [.tried false]
  | worked _ => calls = [.gaveBack, .tried true]

/-- What a run has done to the lock up to a stage, the last call first. -/
def Stage.Called (calls : List LockCall) : Stage → Prop
  | asked | turnedAway | entered | locking => calls = []
  | locked | working _ => calls = [.tried true]
  | leaving finish | idling finish | ended finish => finish.Called calls

/-- **What a step of a run does to a lock** with a log, by whether the run has the lock before and
after it. -/
inductive LockStep (log : List LockCall) : Bool → Bool → List LockCall → Prop
  | kept (has : Bool) : LockStep log has has []
  | missed : LockStep log false false [.tried false]
  | taken (free : isHeld log = false) : LockStep log false true [.tried true]
  | returned : LockStep log true false [.gaveBack]

section Calls

variable {key : Int} {log : σ → List LockCall}

/-- The work leaves the lock alone. -/
theorem WorkStage.IsStep.log_eq (keeps : servers.source.KeepsLock key log) {stage next : WorkStage}
    (step : stage.IsStep servers job turns world next after) : log after.source = log world.source := by
  have other := servers.target.movesBesides_true ""
  cases step with
  | stop failed =>
    exact ((prepare_along keeps.besides other.toMovesAlong job).along failed).source
  | prepare found =>
    exact ((prepare_along keeps.besides other.toMovesAlong job).along found).source
  | turn _ taken =>
    rcases Fleet.take_cases servers job.plan _ _ world with
      nothing | ⟨_, _, _, same, happens, _⟩
    · cases nothing.symm.trans taken
      rfl
    · cases same.symm.trans taken
      exact (happens.along keeps.besides other).source
  | disable made | catchUp made | enable made =>
    exact congrArg (fun given => log given.2.source) made.symm
  | finalize | rest => rfl

/-- Asking for the lock is what the source is asked. -/
theorem acquireLock_of_takeLock {answer : Except Fault Bool}
    (lock : (takeLock servers job).result world = (answer, after)) :
    (servers.source.acquireLock job.source job.settings.lockKey).result world.source =
      (answer, after.source) := by
  rw [takeLock, Session.result_bind, World.result_note] at lock
  simp only [Session.result_bind, World.result_onSource] at lock
  rcases asked : (servers.source.acquireLock job.source job.settings.lockKey).result
    (world.noted .askForLock).source with ⟨fault | free, source⟩
  · rw [asked] at lock
    cases lock
    exact asked
  · rw [asked] at lock
    cases free <;> (cases lock; exact asked)

/-- **A step of a run does to the lock what its stage says.** -/
theorem Stage.IsStep.exists_calls (keeps : servers.source.KeepsLock key log)
    (shared : job.settings.lockKey = key) {stage next : Stage}
    (step : stage.IsStep servers job turns world next after) :
    ∃ calls, log after.source = calls ++ log world.source ∧
      LockStep (log world.source) stage.holdsLock next.holdsLock calls ∧
      ∀ earlier, stage.Called earlier → next.Called (calls ++ earlier) := by
  cases step with
  | begin | work | idle | rest => exact ⟨[], rfl, .kept _, fun _ called => called⟩
  | go step => exact ⟨[], step.log_eq keeps, .kept _, fun _ called => called⟩
  | lock given =>
    subst shared
    rcases acquireLock_cases keeps (acquireLock_of_takeLock given) with
      ⟨_, free, same⟩ | ⟨⟨⟩, _⟩ | ⟨_, ⟨⟩, _⟩
    refine ⟨[.tried true], same, .taken free, ?_⟩
    rintro _ rfl
    rfl
  | lockOut missed =>
    subst shared
    rcases acquireLock_cases keeps (acquireLock_of_takeLock missed) with ⟨⟨⟩, _⟩ | ⟨_, same⟩ | ⟨_, ⟨⟩, _⟩
    refine ⟨[.tried false], same, .missed, ?_⟩
    rintro _ rfl
    rfl
  | fail failed =>
    subst shared
    rcases acquireLock_cases keeps (acquireLock_of_takeLock failed) with
      ⟨⟨⟩, _⟩ | ⟨⟨⟩, _⟩ | ⟨_, _, same | same⟩
    · exact ⟨[], same, .kept _, fun _ called => .inl called⟩
    · refine ⟨[.tried false], same, .missed, ?_⟩
      rintro _ rfl
      exact .inr rfl
  | release result =>
    subst shared
    refine ⟨[.gaveBack], ?_, .returned, ?_⟩
    · rw [result_giveBackLock]
      exact keeps.givesBack _
    · rintro _ rfl
      rfl

end Calls

end SchemaFerry.Run
