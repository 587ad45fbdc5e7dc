/-
**How a run comes to its end.**

A run is turned away, does not get the lock, stops before the first change of the destination, or
is completed (`start_cases`). What is noted on the way is fixed: a call that `Leaves` steps notes
all of them if it gives a value, and the first of them if it fails.

* `takeLock_cases` — asking for the lock is noted, and getting it;
* `leaves_prepare` — what leads up to the first change of the destination does nothing to the
  destination but to open a pool of sessions.
-/

import SchemaFerry.Proofs.Session
import SchemaFerry.Run.Migration

namespace SchemaFerry.Run

open SchemaFerry.Report

variable {σ δ α β γ : Type}

/-! ### What is noted -/

namespace World

variable {before between after : World σ δ} {first later : List Step}

/-- **Between two worlds steps were noted**, in order, and no others. -/
def Notes (before : World σ δ) (steps : List Step) (after : World σ δ) : Prop :=
  after.journal = steps.reverse ++ before.journal

theorem notes_noted (world : World σ δ) (step : Step) : world.Notes [step] (world.noted step) := rfl

theorem Notes.append (one : before.Notes first between) (other : between.Notes later after) :
    before.Notes (first ++ later) after := by
  rw [Notes] at one other ⊢
  rw [other, one, List.reverse_append, List.append_assoc]

theorem Notes.concat (one : before.Notes first between) (step : Step) :
    before.Notes (first ++ [step]) (between.noted step) :=
  one.append (between.notes_noted step)

end World

/-- **A step that cannot end the run** is noted, and then the call is made. -/
theorem run_bestEffort (step : Step) (label : String) (call : Session δ (List Outcome))
    (world : World σ δ) :
    (bestEffort step label call).run world =
      (orFailed label (call.result world.target).1,
        { world.noted step with target := (call.result world.target).2 }) := rfl

theorem notes_bestEffort {step : Step} {label : String} {call : Session δ (List Outcome)}
    {world after : World σ δ} {outcomes : List Outcome}
    (made : (bestEffort step label call).run world = (outcomes, after)) :
    world.Notes [step] after := by
  rw [run_bestEffort] at made
  cases made
  rfl

/-- **Copying everything**, one step after the other. -/
theorem run_copyEverything {servers : Servers σ δ} {job : Job} {turns : List Fleet.Turn}
    {tables : List Copy.TableMapping} {estimate : Option Int} {fleet : Fleet}
    {world begun copied caughtUp after : World σ δ} {disabled sequences enabled : List Outcome}
    (first : (disableKeys servers job).run world = (disabled, begun))
    (followed : (Fleet.follow servers job.plan turns (.ofMappings job.plan tables)).run begun =
      (fleet, copied))
    (second : (catchUpSequences servers job).run (copied.noted (.enter .finalizing)) =
      (sequences, caughtUp))
    (third : (enableKeys servers job).run caughtUp = (enabled, after)) :
    (copyEverything servers job turns tables estimate).run world =
      (fleet.report job estimate disabled sequences enabled, after) := by
  rw [copyEverything, StateT.run_bind, first]
  show StateT.run (Fleet.follow servers job.plan turns (.ofMappings job.plan tables) >>= _) begun = _
  rw [StateT.run_bind, followed]
  show StateT.run (World.record (.enter .finalizing) >>= _) copied = _
  rw [StateT.run_bind]
  show StateT.run (catchUpSequences servers job >>= _) (copied.noted (.enter .finalizing)) = _
  rw [StateT.run_bind, second]
  show StateT.run (enableKeys servers job >>= _) caughtUp = _
  rw [StateT.run_bind, third]
  rfl

/-! ### The ends of a run -/

/-- The world after the lock was given back, whatever came of that. -/
def World.released (servers : Servers σ δ) (job : Job) (world : World σ δ) : World σ δ :=
  let noted := world.noted .releaseLock
  { noted with source := ((servers.source.unlock job.settings.lockKey).result noted.source).2 }

/-- Giving the lock back is noted. -/
theorem World.Notes.released {before between : World σ δ} {steps : List Step}
    (one : before.Notes steps between) (servers : Servers σ δ) (job : Job) :
    before.Notes (steps ++ [.releaseLock]) (between.released servers job) :=
  one.append (rfl : between.Notes [.releaseLock] (between.released servers job))

/-- **How a run comes to its end**: it is turned away; it does not get the lock; it stops before the
first change of the destination; or it is completed. -/
inductive ComesTo (servers : Servers σ δ) (job : Job) (turns : List Fleet.Turn)
    (world : World σ δ) : Bool → Except Fault RunOutcome → World σ δ → Prop
  | turnedAway : ComesTo servers job turns world true (.ok busy) world
  | unlocked {fault : Fault} {asked : World σ δ}
    (lock : (takeLock servers job).result (world.noted (.enter .lockPending)) =
      (.error fault, asked)) :
    ComesTo servers job turns world false (.error fault) (asked.noted (.enter .idle))
  | lockedOut {asked : World σ δ}
    (lock : (takeLock servers job).result (world.noted (.enter .lockPending)) =
      (.ok false, asked)) :
    ComesTo servers job turns world false (.ok lockedOut) (asked.noted (.enter .idle))
  | stopped {fault : Fault} {locked stuck : World σ δ}
    (lock : (takeLock servers job).result (world.noted (.enter .lockPending)) = (.ok true, locked))
    (failed : (prepare servers job).result (locked.noted (.enter .running)) =
      (.error fault, stuck)) :
    ComesTo servers job turns world false (.error fault)
      ((stuck.released servers job).noted (.enter .idle))
  | completed {tables : List Copy.TableMapping} {estimate : Option Int} {report : CopyReport}
    {locked found copied : World σ δ}
    (lock : (takeLock servers job).result (world.noted (.enter .lockPending)) = (.ok true, locked))
    (discovered : (prepare servers job).result (locked.noted (.enter .running)) =
      (.ok (tables, estimate), found))
    (whole : (copyEverything servers job turns tables estimate).run found = (report, copied)) :
    ComesTo servers job turns world false (.ok (.completed report))
      ((copied.released servers job).noted (.enter .idle))

theorem result_giveBackLock (servers : Servers σ δ) (job : Job) (world : World σ δ) :
    ((giveBackLock servers job.settings.lockKey).result world).2 = world.released servers job := by
  rw [giveBackLock, Session.result_bind, World.result_note]
  simp only [Session.result_bind, World.result_onSource, World.released]
  split
  · next same => exact (congrArg Prod.snd same).symm
  · next same => exact (congrArg Prod.snd same).symm

/-- **Work under the lock**: the lock is given back after it, and what it came to stays. -/
theorem result_exclusively (servers : Servers σ δ) (job : Job)
    (work : Session (World σ δ) CopyReport) (world : World σ δ) :
    (exclusively servers job.settings.lockKey work).result world =
      ((work.result (world.noted (.enter .running))).1.map .completed,
        (work.result (world.noted (.enter .running))).2.released servers job) := by
  rw [exclusively, Session.result_bind, World.result_note]
  simp only [Session.result_bind, Session.result_andAlways_ignoringFault, result_giveBackLock]
  rcases work.result (world.noted (.enter .running)) with ⟨outcome, done⟩
  cases outcome <;> rfl

/-- A call that cannot end what goes on, and a step that is noted after it. -/
theorem run_attempt_record (call : Session (World σ δ) α) (step : Step) (world : World σ δ) :
    (do let value ← call.attempt; World.record step; return value :
      StateM (World σ δ) (Except Fault α)).run world =
      ((call.result world).1, (call.result world).2.noted step) := rfl

/-- A run that is let in returns to idleness whatever it came to. -/
theorem run_start (servers : Servers σ δ) (job : Job) (turns : List Fleet.Turn)
    (world : World σ δ) :
    (start servers job turns false).run world =
      (((migrate servers job turns).result world).1,
        ((migrate servers job turns).result world).2.noted (.enter .idle)) := by
  rw [start, if_neg Bool.false_ne_true]
  exact run_attempt_record (migrate servers job turns) (.enter .idle) world

/-- **Every run comes to one of these ends.** -/
theorem start_cases (servers : Servers σ δ) (job : Job) (turns : List Fleet.Turn) (isBusy : Bool)
    (world : World σ δ) :
    ∃ outcome after, (start servers job turns isBusy).run world = (outcome, after) ∧
      ComesTo servers job turns world isBusy outcome after := by
  cases isBusy with
  | true => exact ⟨_, _, rfl, .turnedAway⟩
  | false =>
    refine ⟨_, _, run_start servers job turns world, ?_⟩
    rw [migrate, Session.result_bind, World.result_note]
    simp only [Session.result_bind]
    rcases lock : (takeLock servers job).result (world.noted (.enter .lockPending)) with
      ⟨answer, asked⟩
    match answer with
    | .error fault => exact .unlocked lock
    | .ok false => exact .lockedOut lock
    | .ok true =>
      simp only [if_true, result_exclusively, work, Session.result_bind]
      rcases discovered : (prepare servers job).result (asked.noted (.enter .running)) with
        ⟨found, after⟩
      match found with
      | .error fault => exact .stopped lock discovered
      | .ok (tables, estimate) => exact .completed lock discovered rfl

/-! ### Before the first change -/

/-- What is noted of asking for the lock. -/
def lockSteps : Except Fault Bool → List Step
  | .ok true => [.askForLock, .gotLock]
  | _ => [.askForLock]

/-- **Asking for the lock** is noted, and getting it; nothing is done to the destination. -/
theorem takeLock_cases {servers : Servers σ δ} {job : Job} {world after : World σ δ}
    {answer : Except Fault Bool} (lock : (takeLock servers job).result world = (answer, after)) :
    world.Notes (lockSteps answer) after ∧ after.target = world.target := by
  rw [takeLock, Session.result_bind, World.result_note] at lock
  simp only [Session.result_bind, World.result_onSource] at lock
  rcases asked : (servers.source.acquireLock job.source job.settings.lockKey).result
    (world.noted .askForLock).source with ⟨given, source⟩
  rw [asked] at lock
  match given with
  | .error fault | .ok true | .ok false =>
    cases lock
    exact ⟨rfl, rfl⟩

/-- **A call leaves steps**: it notes all of them if it gives a value and the first of them if it
fails, and keeps the content of the destination. -/
def Leaves (content : δ → γ) (steps : List Step) (call : Session (World σ δ) α) : Prop :=
  ∀ world, content (call.result world).2.target = content world.target ∧
    ∃ done, world.Notes done (call.result world).2 ∧ done <+: steps ∧
      ∀ value, (call.result world).1 = .ok value → done = steps

section Leaves

variable {content : δ → γ} {first later steps : List Step}

theorem leaves_pure (value : α) : Leaves content [] (pure value : Session (World σ δ) α) :=
  fun _ => ⟨rfl, [], rfl, List.nil_prefix, fun _ _ => rfl⟩

theorem leaves_note (step : Step) :
    Leaves content [step] (World.note step : Session (World σ δ) Unit) :=
  fun _ => ⟨rfl, [step], rfl, List.prefix_rfl, fun _ _ => rfl⟩

theorem leaves_onSource (call : Session σ α) :
    Leaves content [] (World.onSource call : Session (World σ δ) α) :=
  fun _ => ⟨rfl, [], rfl, List.nil_prefix, fun _ _ => rfl⟩

/-- A call to the destination that keeps its content. -/
theorem leaves_onTarget {call : Session δ α}
    (keeps : call.Moves fun before after => content after = content before) :
    Leaves content [] (World.onTarget call : Session (World σ δ) α) :=
  fun world => ⟨keeps world.target, [], rfl, List.nil_prefix, fun _ _ => rfl⟩

/-- Calls in turn leave the steps of each. -/
theorem Leaves.bind {call : Session (World σ δ) α} {next : α → Session (World σ δ) β}
    (one : Leaves content first call) (others : ∀ value, Leaves content later (next value)) :
    Leaves content (first ++ later) (call >>= next) := by
  intro world
  obtain ⟨kept, done, noted, front, whole⟩ := one world
  rw [Session.result_bind]
  rcases shape : call.result world with ⟨result, between⟩
  rw [shape] at kept noted whole
  cases result with
  | error fault => exact ⟨kept, done, noted, front.trans (List.prefix_append _ _), nofun⟩
  | ok value =>
    obtain ⟨same, more, added, inside, all⟩ := others value between
    obtain rfl := whole value rfl
    exact ⟨same.trans kept, done ++ more, noted.append added,
      (List.prefix_append_right_inj done).mpr inside, fun last given => by rw [all last given]⟩

/-- **What leads up to the first change of the destination** does nothing to it but to open a pool
of sessions. -/
theorem leaves_prepare {servers : Servers σ δ} {job : Job}
    (quiet : (servers.target.openPool job.target job.settings.poolSize).Moves
      fun before after => content after = content before) :
    Leaves content [.openSource, .openTarget, .list, .count] (prepare servers job) :=
  (leaves_note .openSource).bind fun _ => (leaves_onSource _).bind fun _ =>
    (leaves_note .openTarget).bind fun _ => (leaves_onTarget quiet).bind fun _ =>
      (leaves_note .list).bind fun _ => (leaves_onSource _).bind fun _ =>
        (leaves_note .count).bind fun _ => (leaves_onSource _).bind fun _ => leaves_pure _

end Leaves

/-- What is noted of it. -/
theorem notes_prepare {servers : Servers σ δ} {job : Job} {world after : World σ δ}
    {found : Except Fault (List Copy.TableMapping × Option Int)}
    (prepared : (prepare servers job).result world = (found, after)) :
    ∃ done, world.Notes done after ∧ done <+: [.openSource, .openTarget, .list, .count] ∧
      ∀ value, found = .ok value → done = [.openSource, .openTarget, .list, .count] := by
  -- What is noted does not depend on what is kept, so nothing is asked of the destination.
  have nothing : (servers.target.openPool job.target job.settings.poolSize).Moves
      fun before after => Function.const δ () after = Function.const δ () before := fun _ => rfl
  obtain ⟨_, done, noted, front, whole⟩ := leaves_prepare nothing world
  rw [prepared] at noted whole
  exact ⟨done, noted, front, whole⟩

end SchemaFerry.Run
