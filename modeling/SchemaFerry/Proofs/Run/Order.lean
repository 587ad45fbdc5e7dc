/-
**A run leaves the destination alone, or goes all the way.**

Whatever fails up to the discovery of the tables ends a run before its first change of the
destination (`ComesTo.unchanged`). After it nothing ends a run: what fails is in its report, and the
steps follow each other in one order (`ComesTo.completesInOrder`).

* **`start_isOrderly`** — a run that is not completed has kept the content of the destination and
  noted no step that changes it; a run that passes discovery is completed, after it has disabled the
  foreign keys, copied every table to its end, caught the sequences up and enabled the foreign keys,
  each once; and of a step that fails as a whole the report has one outcome, the failure of the
  step.
-/

import SchemaFerry.Proofs.Run.Moves

namespace SchemaFerry.Run

open SchemaFerry.Copy SchemaFerry.Report

variable {σ δ γ : Type}

/-! ### What is said of a run -/

/-- Whether a step is about a change of the destination. -/
def Step.changesTarget : Step → Bool
  | disableKeys | copy _ | copied _ | catchUpSequences | enableKeys => true
  | _ => false

/-- **A run passes discovery**: it is let in, gets the lock and finds the tables to copy. -/
structure Discovers (servers : Servers σ δ) (job : Job) (isBusy : Bool) (world : World σ δ)
    (tables : List TableMapping) (estimate : Option Int) (found : World σ δ) : Prop where
  isFree : isBusy = false
  reached : ∃ locked,
    (takeLock servers job).result (world.noted (.enter .lockPending)) = (.ok true, locked) ∧
      (prepare servers job).result (locked.noted (.enter .running)) =
        (.ok (tables, estimate), found)

/-- **What a report says of a step**: its outcomes, or one failure named after the step if it failed
as a whole. -/
inductive IsRecorded (step : String) : Except Fault (List Outcome) → List Outcome → Prop
  | outcomes (outcomes : List Outcome) : IsRecorded step (.ok outcomes) outcomes
  | failed (fault : Fault) : IsRecorded step (.error fault) [.failed step fault.message]

/-- **A run goes all the way** from where its tables were found: it disables the foreign keys,
copies the tables to their end, catches the sequences up and enables the foreign keys. Nothing else
is done to the destination, and nothing else is noted. -/
inductive GoesAllTheWay (servers : Servers σ δ) (job : Job) (world : World σ δ)
    (tables : List TableMapping) (estimate : Option Int) (found : World σ δ) (report : CopyReport)
    (after : World σ δ) : Prop
  | intro {disabled sequences enabled : Except Fault (List Outcome)} {cleared caughtUp : δ}
    {events : List Fleet.Event} {fleet : Fleet} {copied : World σ δ} {copies : List Step}
    (disabling : (servers.target.toggle job.targetSchema .disable).result found.target =
      (disabled, cleared))
    (copying : Fleet.Course servers job.plan (.ofMappings job.plan tables)
      { found.noted .disableKeys with target := cleared } events fleet copied)
    (finished : fleet.isDone = true)
    (synchronizing : (servers.target.synchronize job.targetSchema).result copied.target =
      (sequences, caughtUp))
    (enabling : (servers.target.toggle job.targetSchema .enable).result caughtUp =
      (enabled, after.target))
    (once : copies.Perm (tables.flatMap fun mapping =>
      [.copy mapping.source, .copied mapping.source]))
    (inOrder : world.Notes (wholeCourse copies) after)
    (whole : report = fleet.report job estimate report.disabled report.sequences report.enabled)
    (recordedFirst : IsRecorded "disable foreign keys" disabled report.disabled)
    (recordedNext : IsRecorded "synchronize sequences" sequences report.sequences)
    (recordedLast : IsRecorded "enable foreign keys" enabled report.enabled) :
    GoesAllTheWay servers job world tables estimate found report after

/-- **A run is orderly**: it leaves the destination alone unless it is completed, is completed if it
passes discovery, and then goes all the way. -/
structure IsOrderly (content : δ → γ) (servers : Servers σ δ) (job : Job) (isBusy : Bool)
    (world : World σ δ) (outcome : Except Fault RunOutcome) (after : World σ δ) : Prop where
  unchanged : (∀ report, outcome ≠ .ok (.completed report)) →
    content after.target = content world.target ∧
      ∃ steps, world.Notes steps after ∧ ∀ step ∈ steps, step.changesTarget = false
  completed : ∀ {tables : List TableMapping} {estimate : Option Int} {found : World σ δ},
    Discovers servers job isBusy world tables estimate found →
      ∃ report, outcome = .ok (.completed report) ∧
        GoesAllTheWay servers job world tables estimate found report after
  discovered : ∀ {report : CopyReport}, outcome = .ok (.completed report) →
    ∃ tables estimate found, Discovers servers job isBusy world tables estimate found

/-! ### The steps around the copying -/

/-- A step that fails as a whole is recorded as its failure. -/
theorem isRecorded_orFailed (step : String) (outcomes : Except Fault (List Outcome)) :
    IsRecorded step outcomes (orFailed step outcomes) := by
  cases outcomes with
  | ok outcomes => exact .outcomes outcomes
  | error fault => exact .failed fault

/-- **Copying everything** goes all the way. -/
theorem goesAllTheWay_of_run {servers : Servers σ δ} {job : Job} {turns : List Fleet.Turn}
    {tables : List TableMapping} {estimate : Option Int} {report : CopyReport}
    {world locked found copied : World σ δ}
    (lock : (takeLock servers job).result (world.noted (.enter .lockPending)) = (.ok true, locked))
    (discovered : (prepare servers job).result (locked.noted (.enter .running)) =
      (.ok (tables, estimate), found))
    (whole : (copyEverything servers job turns tables estimate).run found = (report, copied)) :
    GoesAllTheWay servers job world tables estimate found report
      ((copied.released servers job).noted (.enter .idle)) := by
  obtain ⟨copies, noted, once⟩ := notes_wholeCourse lock discovered whole
  obtain ⟨events, fleet, ended, disabled, before, sequences, between, enabled, after, first, course,
    finished, _, second, third, same⟩ :=
    Fleet.exists_course_copyEverything servers job turns tables estimate found
  rw [disableKeys, run_bestEffort] at first
  rw [catchUpSequences, run_bestEffort] at second
  rw [enableKeys, run_bestEffort] at third
  cases first
  cases second
  cases third
  cases whole.symm.trans same
  exact .intro rfl course finished rfl rfl once noted rfl (isRecorded_orFailed _ _)
    (isRecorded_orFailed _ _) (isRecorded_orFailed _ _)

/-- What a destination in memory holds: its foreign keys, tables and sequences, and the rows that wait
for a commit or were committed in its sessions. -/
def holdings (memory : Target.Memory) :=
  (memory.constraints, memory.tables, memory.sequences, memory.leases.flatMap (·.pending),
    memory.leases.flatMap (·.committed))

/-- **Opening a pool** keeps what a destination in memory holds, whatever fails. -/
theorem holdings_openPool (connection : Connection) (size : Nat) :
    (Target.Memory.server.openPool connection size).Moves
      fun before after => holdings after = holdings before := by
  have acknowledged : ∀ call, (Target.Memory.acknowledge call).Moves
      fun before after => holdings after = holdings before :=
    fun call => Target.Memory.serve_moves call (fun _ _ _ => rfl) fun _ _ _ => rfl
  have checkedOut : Target.Memory.server.checkOut.Moves
      fun before after => holdings after = holdings before :=
    Target.Memory.serve_moves _ (fun _ _ _ => rfl) fun _ _ _ => by
      simp [Target.Memory.checkOut, holdings]
  have through : ∀ before between after : Target.Memory, holdings between = holdings before →
      holdings after = holdings between → holdings after = holdings before :=
    fun _ _ _ first later => later.trans first
  exact ((acknowledged _).mapFault _).next through fun _ =>
    (checkedOut.mapFault _).next through fun _ => acknowledged _

/-! ### Runs -/

/-- **No step of a run that is not completed changes the destination.** -/
theorem IsNoted.changesTarget {steps : List Step} {outcome : Except Fault RunOutcome}
    (noted : IsNoted steps outcome) (uncompleted : ∀ report, outcome ≠ .ok (.completed report)) :
    ∀ step ∈ steps, step.changesTarget = false := by
  cases noted with
  | turnedAway => exact nofun
  | unlocked | lockedOut => decide
  | @stopped fault done front =>
    have discovery : ∀ step ∈ [Step.openSource, .openTarget, .list, .count],
        step.changesTarget = false := by decide
    simp only [stoppedCourse, List.forall_mem_append]
    exact ⟨⟨by decide, fun step member => discovery step (front.subset member)⟩, by decide⟩
  | completed report => exact absurd rfl (uncompleted report)

section Runs

variable {content : δ → γ} {servers : Servers σ δ} {job : Job} {turns : List Fleet.Turn}
  {isBusy : Bool} {world after : World σ δ} {outcome : Except Fault RunOutcome}

/-- **A run that is not completed** leaves the destination alone. -/
theorem ComesTo.unchanged
    (quiet : (servers.target.openPool job.target job.settings.poolSize).Moves
      fun before after => content after = content before)
    (comes : ComesTo servers job turns world isBusy outcome after)
    (uncompleted : ∀ report, outcome ≠ .ok (.completed report)) :
    content after.target = content world.target ∧
      ∃ steps, world.Notes steps after ∧ ∀ step ∈ steps, step.changesTarget = false := by
  obtain ⟨steps, noted, all⟩ := comes.exists_notes
  refine ⟨?_, steps, noted, all.changesTarget uncompleted⟩
  cases comes with
  | turnedAway => rfl
  | unlocked lock | lockedOut lock => exact congrArg content (takeLock_cases lock).2
  | @stopped fault locked stuck lock failed =>
    obtain ⟨kept, _⟩ := leaves_prepare quiet (locked.noted (.enter .running))
    rw [failed] at kept
    exact kept.trans (congrArg content (takeLock_cases lock).2)
  | completed => exact absurd rfl (uncompleted _)

/-- **A run that passes discovery** goes all the way. -/
theorem ComesTo.goesAllTheWay (comes : ComesTo servers job turns world isBusy outcome after)
    {tables : List TableMapping} {estimate : Option Int} {found : World σ δ}
    (discovers : Discovers servers job isBusy world tables estimate found) :
    ∃ report, outcome = .ok (.completed report) ∧
      GoesAllTheWay servers job world tables estimate found report after := by
  obtain ⟨isFree, locked, given, reached⟩ := discovers
  cases comes with
  | turnedAway => cases isFree
  | unlocked lock | lockedOut lock => cases lock.symm.trans given
  | stopped lock failed =>
    cases lock.symm.trans given
    cases failed.symm.trans reached
  | completed lock discovered whole =>
    cases lock.symm.trans given
    cases discovered.symm.trans reached
    exact ⟨_, rfl, goesAllTheWay_of_run lock discovered whole⟩

/-- A run that is completed has passed discovery. -/
theorem ComesTo.discovers {report : CopyReport}
    (comes : ComesTo servers job turns world isBusy outcome after)
    (same : outcome = .ok (.completed report)) :
    ∃ tables estimate found, Discovers servers job isBusy world tables estimate found := by
  cases comes with
  | turnedAway | unlocked | lockedOut | stopped => cases same
  | completed lock discovered _ => exact ⟨_, _, _, rfl, _, lock, discovered⟩

/-- **Every run is orderly**, whatever fails and whichever turns its tables take, if opening a pool
of sessions keeps the content of the destination. -/
theorem start_isOrderly
    (quiet : (servers.target.openPool job.target job.settings.poolSize).Moves
      fun before after => content after = content before)
    (turns : List Fleet.Turn) (isBusy : Bool) (world : World σ δ) :
    IsOrderly content servers job isBusy world ((start servers job turns isBusy).run world).1
      ((start servers job turns isBusy).run world).2 := by
  obtain ⟨outcome, after, same, comes⟩ := start_cases servers job turns isBusy world
  rw [same]
  exact ⟨comes.unchanged quiet, comes.goesAllTheWay, comes.discovers⟩

/-- A run of the shop in which the foreign keys cannot be disabled; the tables are copied all the
same. -/
theorem start_isOrderly_in_memory :
    let world : World Source.Memory Target.Memory :=
      ⟨Shop.source, Shop.target [] [] [⟨"", 6, "denied", 0⟩], []⟩
    let run := (start Shop.servers Shop.job Shop.turns false).run world
    ((Shop.servers.target.openPool Shop.job.target Shop.job.settings.poolSize).Moves
      fun before after => holdings after = holdings before) ∧
      IsOrderly holdings Shop.servers Shop.job false world run.1 run.2 ∧
      ∃ report, run.1 = .ok (.completed report) := by
  intro world run
  have quiet : (Shop.servers.target.openPool Shop.job.target Shop.job.settings.poolSize).Moves
      fun before after => holdings after = holdings before := holdings_openPool _ _
  have ran : (reportOf? run.1).isSome = true := by
    decide +kernel
  obtain ⟨report, given⟩ := Option.isSome_iff_exists.mp ran
  exact ⟨quiet, start_isOrderly quiet Shop.turns false world, report, eq_of_reportOf? given⟩

end Runs

end SchemaFerry.Run
