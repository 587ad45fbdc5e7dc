/-
**A run that nobody comes in between.**

The steps of the work, one after the other, do what the work does (`WorkStage.goes_copyEverything`):
the turns of the tables are those that are planned and then those that are not, as in a whole run
(`goes_settle`, by the recursion of the turns). So the steps of a run do what a start does
(`Stage.exists_goes_start`).

* **`System.exists_alone`** — in any system a run that was asked for and then goes on alone comes to
  the outcome of a start, and leaves both databases and its journal as that does. Whether the start
  finds its service busy is up to the service.
-/

import Mathlib.Logic.Relation
import SchemaFerry.Proofs.Run.Whole
import SchemaFerry.Run.Lifecycle

namespace SchemaFerry.Run

open Relation (ReflTransGen)
open SchemaFerry.Copy SchemaFerry.Report

variable {σ δ : Type} {servers : Servers σ δ} {job : Job} {turns : List Fleet.Turn}

/-! ### The work -/

namespace WorkStage

/-- The work goes one step further. -/
def Goes (servers : Servers σ δ) (job : Job) (planned : List Fleet.Turn)
    (before after : WorkStage × World σ δ) : Prop :=
  before.1.result? = none ∧ (before.1.step servers job planned).run before.2 = after

variable {planned : List Fleet.Turn} {disabled : List Outcome} {estimate : Option Int}

theorem goes_preparing {found : Except Fault (List TableMapping × Option Int)}
    {world after : World σ δ} (prepared : (prepare servers job).result world = (found, after)) :
    Goes servers job planned (preparing, world) (ofPrepared found, after) := by
  refine ⟨rfl, ?_⟩
  simp only [step, Session.run_attempt_bind_pure, prepared]

theorem goes_turn {turn : Fleet.Turn} {rest : List Fleet.Turn} {fleet : Fleet}
    (chosen : fleet.next? turns = some (turn, rest)) (world : World σ δ) :
    Goes servers job planned (copying disabled turns fleet estimate, world)
      (copying disabled rest ((fleet.take servers job.plan turn).run world).1 estimate,
        ((fleet.take servers job.plan turn).run world).2) := by
  refine ⟨rfl, ?_⟩
  simp only [step, chosen]
  rfl

theorem goes_finalize {fleet : Fleet} (spent : fleet.next? turns = none) (world : World σ δ) :
    Goes servers job planned (copying disabled turns fleet estimate, world)
      (catchingUp disabled fleet estimate, world.noted (.enter .finalizing)) := by
  refine ⟨rfl, ?_⟩
  simp only [step, spent]
  rfl

/-- Turns that are not planned are taken until there are none. -/
theorem goes_settle (fleet : Fleet) (world : World σ δ) :
    ReflTransGen (Goes servers job planned) (copying disabled [] fleet estimate, world)
      (catchingUp disabled (fleet.settle servers job.plan world).1 estimate,
        (fleet.settle servers job.plan world).2.noted (.enter .finalizing)) := by
  fun_induction Fleet.settle servers job.plan fleet world with
  | case1 fleet world stuck =>
    exact .single (goes_finalize (by rw [Fleet.next?, stuck]; rfl) world)
  | case2 fleet world turn chosen _ ih =>
    exact .head (goes_turn (by rw [Fleet.next?, chosen]; rfl) world) ih

/-- **The turns of the tables** are those that are planned, and then those that are not. -/
theorem goes_follow (turns : List Fleet.Turn) {fleet later : Fleet} {world after : World σ δ}
    (followed : (fleet.follow servers job.plan turns).run world = (later, after)) :
    ReflTransGen (Goes servers job planned) (copying disabled turns fleet estimate, world)
      (catchingUp disabled later estimate, after.noted (.enter .finalizing)) := by
  induction turns generalizing fleet world with
  | nil =>
    have settled : fleet.settle servers job.plan world = (later, after) := followed
    have goes := @goes_settle _ _ servers job planned disabled estimate fleet world
    rwa [settled] at goes
  | cons turn rest ih =>
    refine .head (goes_turn rfl world) (ih ?_)
    rw [Fleet.follow, List.foldlM_cons, bind_assoc, StateT.run_bind] at followed
    exact followed

/-- **Copying everything**, step by step. -/
theorem goes_copyEverything {tables : List TableMapping} {report : CopyReport}
    {world after : World σ δ}
    (whole : (copyEverything servers job planned tables estimate).run world = (report, after)) :
    ReflTransGen (Goes servers job planned) (disabling tables estimate, world)
      (done (.ok report), after) := by
  rcases first : (disableKeys servers job).run world with ⟨disabled, begun⟩
  rcases followed : (Fleet.follow servers job.plan planned (.ofMappings job.plan tables)).run begun
    with ⟨fleet, copied⟩
  rcases second : (catchUpSequences servers job).run (copied.noted (.enter .finalizing)) with
    ⟨sequences, caughtUp⟩
  rcases third : (enableKeys servers job).run caughtUp with ⟨enabled, last⟩
  cases whole.symm.trans (run_copyEverything first followed second third)
  have disables : Goes servers job planned (disabling tables estimate, world)
      (copying disabled planned (.ofMappings job.plan tables) estimate, begun) := by
    refine ⟨rfl, ?_⟩
    simp only [step, StateT.run_bind, first]
    rfl
  have catchesUp : Goes servers job planned
      (catchingUp disabled fleet estimate, copied.noted (.enter .finalizing))
      (enabling disabled sequences fleet estimate, caughtUp) := by
    refine ⟨rfl, ?_⟩
    simp only [step, StateT.run_bind, second]
    rfl
  have enables : Goes servers job planned (enabling disabled sequences fleet estimate, caughtUp)
      (done (.ok (fleet.report job estimate disabled sequences enabled)), after) := by
    refine ⟨rfl, ?_⟩
    simp only [step, StateT.run_bind, third]
    rfl
  exact .head disables ((goes_follow planned followed).tail catchesUp |>.tail enables)

end WorkStage

/-! ### The run -/

namespace Stage

/-- A run goes one step further. -/
def Goes (servers : Servers σ δ) (job : Job) (turns : List Fleet.Turn)
    (before after : Stage × World σ δ) : Prop :=
  before.1.isUnderWay = true ∧ (before.1.step servers job turns).run before.2 = after

theorem goes_working {before after : WorkStage × World σ δ} 
    (goes : WorkStage.Goes servers job turns before after) :
    Goes servers job turns (working before.1, before.2) (working after.1, after.2) := by
  obtain ⟨under, made⟩ := goes
  refine ⟨rfl, ?_⟩
  simp only [step, under, StateT.run_bind, made]
  rfl

theorem goes_locking {answer : Except Fault Bool} {world after : World σ δ}
    (asked : (takeLock servers job).result world = (answer, after)) :
    Goes servers job turns (locking, world) (ofAnswer answer, after) := by
  refine ⟨rfl, ?_⟩
  simp only [step, Session.run_attempt_bind_pure, asked]

theorem goes_release (result : Except Fault CopyReport) (world : World σ δ) :
    Goes servers job turns (working (.done result), world)
      (leaving (.worked result), world.released servers job) := by
  refine ⟨rfl, ?_⟩
  simp only [step, WorkStage.result?, Session.run_attempt_bind_pure, result_giveBackLock]

/-- A run that has the lock does its work, gives the lock back and becomes idle. -/
theorem goes_locked {result : Except Fault CopyReport} {world done : World σ δ}
    (works : ReflTransGen (WorkStage.Goes servers job turns)
      (.preparing, world.noted (.enter .running)) (.done result, done)) :
    ReflTransGen (Goes servers job turns) (locked, world)
      (idling (.worked result), (done.released servers job).noted (.enter .idle)) := by
  have begins : Goes servers job turns (locked, world)
    (working .preparing, world.noted (.enter .running)) := ⟨rfl, rfl⟩
  have goesOn := works.lift (fun place => (working place.1, place.2)) fun _ _ => goes_working
  exact .head begins ((goesOn.tail (goes_release result done)).tail ⟨rfl, rfl⟩)

/-- **The steps of a run that is let in** do what a start does. -/
theorem exists_goes_start (servers : Servers σ δ) (job : Job) (turns : List Fleet.Turn)
    (world : World σ δ) :
    ∃ finish after, (start servers job turns false).run world = (finish.outcome, after) ∧
      ReflTransGen (Goes servers job turns) (entered, world) (idling finish, after) := by
  obtain ⟨outcome, after, run, comes⟩ := start_cases servers job turns false world
  have begins : Goes servers job turns (entered, world)
    (locking, world.noted (.enter .lockPending)) := ⟨rfl, rfl⟩
  cases comes with
  | @unlocked fault _ lock =>
    exact ⟨.unlocked fault, _, run, .head begins (.head (goes_locking lock) (.single ⟨rfl, rfl⟩))⟩
  | lockedOut lock =>
    exact ⟨.lockedOut, _, run, .head begins (.head (goes_locking lock) (.single ⟨rfl, rfl⟩))⟩
  | @stopped fault _ _ lock failed =>
    have stops : WorkStage.Goes servers job turns (.preparing, _) (.done (.error fault), _) :=
      WorkStage.goes_preparing failed
    exact ⟨.worked (.error fault), _, run,
      .head begins (.head (goes_locking lock) (goes_locked (.single stops)))⟩
  | @completed _ _ report _ _ _ lock discovered whole =>
    have works := ReflTransGen.head (WorkStage.goes_preparing discovered)
      (WorkStage.goes_copyEverything whole)
    exact ⟨.worked (.ok report), _, run,
      .head begins (.head (goes_locking lock) (goes_locked works))⟩

end Stage

/-! ### The run in a system -/

theorem Move.of_eq_going {run : Nat} {member : Member} {world after : World σ δ} {next : Stage}
    (goes : Stage.Goes servers member.job member.turns (member.stage, world) (next, after))
    (service : Service) :
    Move.of servers run member service world = .going member service world next after := by
  obtain ⟨under, made⟩ := goes
  dsimp only at under made
  unfold Move.of
  split
  · next stage => rw [stage] at under; cases under
  · next stage => rw [stage] at under; cases under
  · rw [made]

namespace System

/-- Where a run of a system stands, and its world. -/
def Stands (system : System σ δ) (run : Nat) (job : Job) (turns : List Fleet.Turn)
    (place : Stage × World σ δ) : Prop :=
  ∃ member, system.members[run]? = some member ∧ member.job = job ∧ member.turns = turns ∧
    (member.stage, system.world member) = place

variable {system : System σ δ} {run : Nat} {before after : Stage × World σ δ}

/-- The acts of one run, without an event of another one in between. -/
def alone (servers : Servers σ δ) (system : System σ δ) (run count : Nat) : System σ δ :=
  system.afterAll servers (List.replicate count (.act run))

theorem alone_succ (count : Nat) :
    system.alone servers run (count + 1) = (system.alone servers run count).act servers run := by
  rw [alone, List.replicate_succ', afterAll, List.foldl_append]
  rfl

/-- A run that goes one step further stands there in its system. -/
theorem stands_act (stands : system.Stands run job turns before)
    (goes : Stage.Goes servers job turns before after) :
    (system.act servers run).Stands run job turns after := by
  obtain ⟨member, found, rfl, rfl, rfl⟩ := stands
  obtain ⟨next, world⟩ := after
  have within := (List.getElem?_eq_some_iff.mp found).1
  rw [act, found]
  dsimp only
  rw [Move.of_eq_going goes]
  exact ⟨_, List.getElem?_set_self within, rfl, rfl, rfl⟩

/-- A run that goes on alone stands where its steps lead. -/
theorem exists_stands_alone {first : Nat}
    (stands : (system.alone servers run first).Stands run job turns before)
    (goes : ReflTransGen (Stage.Goes servers job turns) before after) :
    ∃ count, (system.alone servers run count).Stands run job turns after := by
  induction goes with
  | refl => exact ⟨first, stands⟩
  | tail _ goes ih =>
    obtain ⟨count, stands⟩ := ih
    exact ⟨count + 1, alone_succ count ▸ stands_act stands goes⟩

section Doors

variable {member : Member}

/-- A run whose service is free enters it. -/
theorem stands_of_free (servers : Servers σ δ) (found : system.members[run]? = some member)
    (asked : member.stage = .asked) (free : (system.services member.service).occupant = none) :
    (system.act servers run).Stands run member.job member.turns
      (.entered, system.world member) := by
  have within := (List.getElem?_eq_some_iff.mp found).1
  simp only [act, found, Move.of, asked, Move.entering, free, Option.isNone_none, if_true]
  exact ⟨_, List.getElem?_set_self within, rfl, rfl, rfl⟩

/-- A run that finds its service busy is turned away, and nothing else happens. -/
theorem act_of_busy (servers : Servers σ δ) (found : system.members[run]? = some member)
    (asked : member.stage = .asked) (busy : (system.services member.service).occupant ≠ none) :
    system.act servers run = { system with
      members := system.members.set run { member with stage := .turnedAway } } := by
  have same : (fun other => if other = member.service then system.services member.service
      else system.services other) = system.services := by
    funext other
    split
    · next shared => rw [shared]
    · rfl
  simp only [act, found, Move.of, asked, Move.entering]
  rw [if_neg (by rwa [Option.isNone_iff_eq_none]), moved]
  simp only [same]
  rfl

/-- A run that is idle leaves its service. -/
theorem stands_ended {finish : Finish} {world : World σ δ}
    (stands : system.Stands run job turns (.idling finish, world)) :
    (system.act servers run).Stands run job turns (.ended finish, world) := by
  obtain ⟨member, found, rfl, rfl, same⟩ := stands
  obtain ⟨idle, rfl⟩ := Prod.mk.inj same
  have within := (List.getElem?_eq_some_iff.mp found).1
  simp only [act, found, Move.of, idle]
  exact ⟨_, List.getElem?_set_self within, rfl, rfl, rfl⟩

end Doors

/-- **A run that was asked for and goes on alone** comes to the outcome of a start, and leaves the
databases and its journal as that does. -/
def ComesAlone (servers : Servers σ δ) (system : System σ δ) (run : Nat) (member : Member) : Prop :=
  let isBusy := (system.services member.service).occupant.isSome
  let started := (start servers member.job member.turns isBusy).run (system.world member)
  ∃ count later, (system.alone servers run count).members[run]? = some later ∧
    later.stage.outcome? = some started.1 ∧ (system.alone servers run count).world later = started.2

theorem exists_alone (servers : Servers σ δ) {member : Member}
    (found : system.members[run]? = some member) (asked : member.stage = .asked) :
    system.ComesAlone servers run member := by
  unfold ComesAlone
  by_cases free : (system.services member.service).occupant = none
  · obtain ⟨finish, after, same, goes⟩ :=
      Stage.exists_goes_start servers member.job member.turns (system.world member)
    have entered : (system.alone servers run 1).Stands run member.job member.turns
        (.entered, system.world member) :=
      stands_of_free servers found asked free
    obtain ⟨count, idle⟩ := exists_stands_alone entered goes
    obtain ⟨later, place, _, _, ended⟩ := stands_ended idle
    obtain ⟨stage, world⟩ := Prod.mk.inj ended
    rw [← alone_succ] at place world
    simp only [free, Option.isSome_none, same]
    exact ⟨count + 1, later, place, by rw [stage]; rfl, world⟩
  · obtain ⟨other, occupied⟩ := Option.ne_none_iff_exists'.mp free
    have turned : system.alone servers run 1 = _ := act_of_busy servers found asked free
    simp only [occupied, Option.isSome_some]
    refine ⟨1, { member with stage := .turnedAway }, ?_, rfl, ?_⟩
    · rw [turned]
      exact List.getElem?_set_self (List.getElem?_eq_some_iff.mp found).1
    · rw [turned]
      rfl

end System

end SchemaFerry.Run
