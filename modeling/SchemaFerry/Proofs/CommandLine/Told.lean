/-
**What is told of a completed copy.**

A report sums its items up in three ways: a tally of the tables, the names of those that failed, and
whether nothing failed at all. The tally is counted when the report is made, and the other two are
read off the items later; that they agree rests on the tally being that of the tables
(`isSummed_of_tally`). The program ends with the failed tables, and with success if there are none,
whatever became of the constraints and sequences.

* `listsFailed_failedTables` — the failed tables are named in their order, and no others;
* `isClean_iff` — a report is clean exactly if none of its outcomes is a failure;
* **`completed_isTold`** — the report of every completed run, and what the program ends with.
-/

import SchemaFerry.Proofs.CommandLine.Started
import SchemaFerry.Proofs.Run.Restored

namespace SchemaFerry.Report

/-! ### Counts -/

/-- An outcome that is a failure, for whatever reason. -/
def Outcome.HasFailed (outcome : Outcome) : Prop :=
  ∃ reason, outcome.status = .failed reason

theorem Outcome.isFailure_iff {outcome : Outcome} :
    outcome.isFailure = true ↔ outcome.HasFailed := by
  obtain ⟨item, status⟩ := outcome
  cases status with
  | success => exact ⟨nofun, nofun⟩
  | skipped reason => exact ⟨nofun, nofun⟩
  | failed reason => exact ⟨fun _ => ⟨reason, rfl⟩, fun _ => rfl⟩

/-- **A tally counts outcomes**: each of its counts is how many of them have that status. -/
structure Tally.Counts (tally : Tally) (outcomes : List Outcome) : Prop where
  succeeded : tally.succeeded = outcomes.countP (·.status matches .success)
  skipped : tally.skipped = outcomes.countP (·.status matches .skipped _)
  failed : tally.failed = outcomes.countP (·.status matches .failed _)

/-- A tally that counts outcomes counts one more when that is added. -/
theorem Tally.Counts.add {tally : Tally} {outcomes : List Outcome} (counts : tally.Counts outcomes)
    (outcome : Outcome) : (tally.add outcome).Counts (outcomes ++ [outcome]) := by
  obtain ⟨item, status⟩ := outcome
  obtain ⟨succeeded, skipped, failed⟩ := counts
  cases status <;>
    exact ⟨by simp [Tally.add, succeeded], by simp [Tally.add, skipped], by simp [Tally.add, failed]⟩

theorem Tally.Counts.foldl {tally : Tally} {before : List Outcome} (counts : tally.Counts before)
    (rest : List Outcome) : (rest.foldl Tally.add tally).Counts (before ++ rest) := by
  induction rest generalizing tally before with
  | nil => rwa [List.append_nil]
  | cons outcome rest ih =>
    rw [List.foldl_cons, List.append_cons]
    exact ih (counts.add outcome)

/-- **The tally of outcomes counts them.** -/
theorem Tally.counts_ofOutcomes (outcomes : List Outcome) :
    (ofOutcomes outcomes).Counts outcomes := by
  have start : Tally.Counts ⟨0, 0, 0⟩ [] := ⟨rfl, rfl, rfl⟩
  exact start.foldl outcomes

/-! ### Names of failed tables -/

/-- **The names of the tables that failed**, in the order of the tables. -/
inductive ListsFailed : List TableResult → List String → Prop
  | none : ListsFailed [] []
  | failed {result : TableResult} {others : List TableResult} {names : List String}
    (failed : result.outcome.HasFailed) (rest : ListsFailed others names) :
    ListsFailed (result :: others) (result.outcome.item :: names)
  | passed {result : TableResult} {others : List TableResult} {names : List String}
    (passed : ¬ result.outcome.HasFailed) (rest : ListsFailed others names) :
    ListsFailed (result :: others) names

/-- **The failed tables are named in their order, and no others.** -/
theorem listsFailed_failedTables (report : CopyReport) :
    ListsFailed report.tables report.failedTables := by
  unfold CopyReport.failedTables
  induction report.tables with
  | nil => exact .none
  | cons result others ih =>
    rw [List.filter_cons]
    split
    · next failed => exact .failed (Outcome.isFailure_iff.mp failed) ih
    · next passed => exact .passed (mt Outcome.isFailure_iff.mpr passed) ih

/-! ### Reports -/

namespace CopyReport

/-- All outcomes of a report: those of the tables, and those of the steps around them. -/
def outcomes (report : CopyReport) : List Outcome :=
  report.tables.map (·.outcome) ++
    (report.disabled ++ report.sequences ++ report.enabled)

/-- **The summaries of a report agree with its items.**

* `total`, `counts` — the tally has every table once, and each count is that of its status;
* `failed` — the failed tables are named in their order, and no others;
* `clean` — the report is clean exactly if none of its outcomes is a failure. -/
structure IsSummed (report : CopyReport) : Prop where
  total : report.tally.succeeded + report.tally.skipped + report.tally.failed =
    report.tables.length
  counts : report.tally.Counts (report.tables.map (·.outcome))
  failed : ListsFailed report.tables report.failedTables
  clean : report.isClean = true ↔ ∀ outcome ∈ report.outcomes, ¬ outcome.HasFailed

/-- **A report is clean exactly if none of its outcomes is a failure**, if its tally counts its
tables. -/
theorem isClean_iff {report : CopyReport}
    (counts : report.tally.Counts (report.tables.map (·.outcome))) :
    report.isClean = true ↔ ∀ outcome ∈ report.outcomes, ¬ outcome.HasFailed := by
  have tables : report.tally.failed = 0 ↔
      ∀ outcome ∈ report.tables.map (·.outcome), ¬ outcome.HasFailed := by
    rw [counts.failed, List.countP_eq_zero]
    exact forall₂_congr fun outcome _ => not_congr Outcome.isFailure_iff
  have steps : report.steps.all (!·.isFailure) = true ↔
      ∀ outcome ∈ report.steps, ¬ outcome.HasFailed := by
    rw [List.all_eq_true]
    refine forall₂_congr fun outcome _ => ?_
    rw [Bool.not_eq_true', ← Bool.not_eq_true, Outcome.isFailure_iff]
  rw [isClean, Bool.and_eq_true, beq_iff_eq, tables, steps, outcomes, List.forall_mem_append]
  rfl

/-- A report whose tally is that of its tables is summed up. -/
theorem isSummed_of_tally {report : CopyReport}
    (counted : report.tally = Tally.ofOutcomes (report.tables.map (·.outcome))) :
    report.IsSummed := by
  have counts : report.tally.Counts (report.tables.map (·.outcome)) :=
    counted ▸ Tally.counts_ofOutcomes _
  refine ⟨?_, counts, listsFailed_failedTables report, isClean_iff counts⟩
  have total := Tally.total_ofOutcomes (report.tables.map (·.outcome))
  rwa [← counted, List.length_map] at total

end CopyReport

end SchemaFerry.Report

namespace SchemaFerry.CommandLine

open SchemaFerry.Report

variable {σ δ : Type}

/-- The tally of the report of a completed run is that of its tables. -/
theorem tally_of_completed {servers : Run.Servers σ δ} {job : Run.Job}
    {turns : List Run.Fleet.Turn} {isBusy : Bool} {world : Run.World σ δ} {report : CopyReport}
    (completed : ((Run.start servers job turns isBusy).run world).1 = .ok (.completed report)) :
    report.tally = Tally.ofOutcomes (report.tables.map (·.outcome)) := by
  obtain ⟨outcome, after, run, comes⟩ := Run.start_cases servers job turns isBusy world
  rw [run] at completed
  cases comes with
  | turnedAway | unlocked | lockedOut | stopped => cases completed
  | @completed tables estimate _ locked found copied _ _ whole =>
    cases completed
    -- The tally is counted with the other items when the report is put together, and only then.
    obtain ⟨_, fleet, _, disabled, _, sequences, _, enabled, _, _, _, _, _, _, _, same⟩ :=
      Run.Fleet.exists_course_copyEverything servers job turns tables estimate found
    rw [(Prod.mk.inj (whole.symm.trans same)).1]
    rfl

/-- **What a completed copy ends with.**

* `unwritten` — nothing is left to be written that could fail;
* `transfer` — a fault that names the failed tables, exactly if there are any;
* `message` — it says how many of the tables these are;
* `success` — no fault, exactly if no table failed;
* `exit` — the exit code says which of these it is. -/
structure EndsBy (report : CopyReport) (deed : Deed) : Prop where
  unwritten : deed.file = none
  transfer : (∃ message, deed.fault =
    some (.transfer (", ".intercalate report.failedTables) message)) ↔ report.failedTables ≠ []
  message : ∀ names message, deed.fault = some (.transfer names message) →
    message = toString report.failedTables.length ++ " of " ++ toString report.tables.length ++
      " tables failed"
  success : deed.fault = none ↔ report.failedTables = []
  exit : exitCodeOf deed.fault = if report.failedTables = [] then 0 else 5

/-- No table is told of if none failed. -/
theorem tablesFault?_eq_none {report : CopyReport} (clear : report.failedTables = []) :
    tablesFault? report = none := by
  rw [tablesFault?, clear]
  rfl

/-- The failed tables are told of. -/
theorem tablesFault?_eq_some {report : CopyReport} (named : report.failedTables ≠ []) :
    tablesFault? report = some (.transfer (", ".intercalate report.failedTables)
      (toString report.failedTables.length ++ " of " ++ toString report.tables.length ++
        " tables failed")) :=
  if_neg (mt List.isEmpty_iff.mp named)

/-- **A report is told of as it is**, whatever is in it. -/
theorem endsBy_copyDeed (writesJson : Bool) (report : CopyReport) :
    EndsBy report (copyDeed writesJson (.completed report)) := by
  have told : (copyDeed writesJson (.completed report)).fault = tablesFault? report := rfl
  by_cases clear : report.failedTables = []
  · rw [tablesFault?_eq_none clear] at told
    refine ⟨rfl, ?_, ?_, ?_, ?_⟩ <;> rw [told]
    · exact ⟨by rintro ⟨_, ⟨⟩⟩, fun named => absurd clear named⟩
    · exact nofun
    · exact ⟨fun _ => clear, fun _ => rfl⟩
    · exact (if_pos clear).symm
  · rw [tablesFault?_eq_some clear] at told
    refine ⟨rfl, ?_, ?_, ?_, ?_⟩ <;> rw [told]
    · exact ⟨fun _ => clear, fun _ => ⟨_, rfl⟩⟩
    · rintro names message named
      cases named
      rfl
    · exact ⟨nofun, fun empty => absurd empty clear⟩
    · exact (if_neg clear).symm

/-- **What is told of every completed run**: whatever the databases answer and in whichever turns
the tables are copied, the summaries of the report agree with its items, and the program, which
plans no turns, ends with the failed tables or with success. -/
theorem completed_isTold (servers : Run.Servers σ δ) (job : Run.Job) (turns : List Run.Fleet.Turn)
    (world : Run.World σ δ) {report : CopyReport}
    (completed : ((Run.start servers job turns false).run world).1 = .ok (.completed report)) :
    report.IsSummed ∧ (∀ writesJson, EndsBy report (copyDeed writesJson (.completed report))) ∧
      ∀ timing options given file, jobOf timing given file = .ok job → turns = [] →
        EndsBy report (deed servers timing ⟨options, .migrate given⟩ file world).1 := by
  refine ⟨CopyReport.isSummed_of_tally (tally_of_completed completed),
    fun writesJson => endsBy_copyDeed writesJson report, ?_⟩
  rintro timing options given file asked rfl
  rw [deed_migrate, asked]
  show EndsBy report (afterRun _ ((Run.start servers job [] false).run world)).1
  rcases run : (Run.start servers job [] false).run world with ⟨outcome, after⟩
  rw [run] at completed
  cases completed
  exact endsBy_copyDeed _ report

/-- A run in memory whose tables cannot be read. -/
theorem completed_isTold_in_memory :
    let servers : Run.Servers Source.Memory Target.Memory :=
      ⟨Source.Memory.server, Target.Memory.server⟩
    let source : Source.Memory := ⟨["users", "orders"], [], true, [], [], [], []⟩
    let target : Target.Memory := ⟨[], [], [], [], [], [], [], []⟩
    let timing : Run.Timing := ⟨"run", ⟨0, 0⟩, ⟨0, 0⟩, 0, fun _ => 0⟩
    ∃ job report, jobOf timing [] (.ok briefFile) = .ok job ∧
      ((Run.start servers job [] false).run ⟨source, target, []⟩).1 = .ok (.completed report) ∧
      report.IsSummed ∧
      EndsBy report
        (deed servers timing ⟨[], .migrate []⟩ (.ok briefFile) ⟨source, target, []⟩).1 := by
  intro servers source target timing
  have ran : ((jobOf timing [] (.ok briefFile)).toOption.bind fun job =>
      Run.reportOf? ((Run.start servers job [] false).run ⟨source, target, []⟩).1).isSome =
        true := by
    decide +kernel
  obtain ⟨report, given⟩ := Option.isSome_iff_exists.mp ran
  obtain ⟨job, asked, reported⟩ := Option.bind_eq_some_iff.mp given
  have asked : jobOf timing [] (.ok briefFile) = .ok job := by
    cases shape : jobOf timing [] (.ok briefFile) with
    | error fault =>
      rw [shape] at asked
      cases asked
    | ok other =>
      rw [shape] at asked
      rw [Option.some.inj asked]
  have completed := Run.eq_of_reportOf? reported
  obtain ⟨summed, _, ended⟩ := completed_isTold servers job [] ⟨source, target, []⟩ completed
  exact ⟨job, report, asked, completed, summed, ended timing [] [] (.ok briefFile) asked rfl⟩

end SchemaFerry.CommandLine
