/-
**Every row that was committed is counted once.**

The result of a table is the one to which its own answers lead, and counts what its own session
committed; the sessions of different tables are different ones. So the count of rows in the report is
that of the rows that the run committed.

* **`copyEverything_accountsFor`** — whatever the turns are and whatever fails, if no table crashes
  the report has one result for each table, in order and under its names; its count of rows is the
  sum of theirs; and at the end of the run each table has committed what its result counts, and
  nothing else was committed.
-/

import SchemaFerry.Proofs.Run.Commits

namespace SchemaFerry.Run

open SchemaFerry.Copy SchemaFerry.Report SchemaFerry.Target

variable {σ δ : Type} {ledger : Ledger δ} {servers : Servers σ δ}

/-! ### One table -/

namespace TableCopy

variable {copy : TableCopy} {replies : List Reply} {plan : CopyPlan} {state after : δ}

/-- **An honest copy counts the rows that it delivered.** -/
theorem IsHonest.rows_eq (honest : copy.IsHonest) (counted : copy.IsCounted replies) :
    copy.pump.rows = copy.pump.delivered.length := by
  rw [counted.written, Pump.delivered, List.length_flatMap]
  exact congrArg (fun counts => ((counts.sum : Nat) : Int)) (List.map_congr_left honest)

/-- **The account of a table** in a state of the destination, after the answers that were given to
its copy.

* `own` — they lead to its result;
* `rows`, `batches` — which counts the rows and batches that were committed with them;
* `unopened` — of a table that was not opened that is nothing;
* `statement`, `alone` — in the session that was opened for a table nothing was committed but by the
  statement that fills the table;
* `kept`, `batchesKept`, `delivered` — and that is what the result counts and what the copy
  delivered. -/
structure IsAccounted (ledger : Ledger δ) (plan : CopyPlan) (mapping : TableMapping)
    (replies : List Reply) (state : δ) (result : TableResult) : Prop where
  own : (Fleet.copyOf plan mapping).receiveAll replies >>= result? = some result
  rows : result.rows = (replies.map Reply.committed).sum
  batches : result.batches = replies.countP Reply.isCommit
  unopened : openedBy replies = none → result.rows = 0 ∧ result.batches = 0
  statement : ∀ {table : OpenTable}, openedBy replies = some table →
    ∃ columns, table.statement = insertion plan.targetSchema mapping.target columns
  alone : ∀ {table : OpenTable}, openedBy replies = some table →
    ∀ entry ∈ ledger.kept table.session state, entry.1 = table.statement
  kept : ∀ {table : OpenTable}, openedBy replies = some table →
    result.rows = ((ledger.kept table.session state).flatMap Prod.snd).length
  batchesKept : ∀ {table : OpenTable}, openedBy replies = some table →
    result.batches = (ledger.kept table.session state).length
  delivered : ∀ {table : OpenTable} {copy : TableCopy}, openedBy replies = some table →
    (Fleet.copyOf plan mapping).receiveAll replies = some copy →
      (ledger.kept table.session state).flatMap Prod.snd = copy.pump.delivered

/-- A copy that is served and has a result has an account. -/
theorem IsServed.isAccounted {mapping : TableMapping} {result : TableResult}
    (served : copy.IsServed ledger plan state (openedBy replies))
    (received : (Fleet.copyOf plan mapping).receiveAll replies = some copy)
    (same : copy.mapping = mapping) (ended : copy.result? = some result) :
    IsAccounted ledger plan mapping replies state result := by
  have counted := isCounted_receiveAll received
  obtain ⟨_, _, rows, batches⟩ := result?_eq_some ended
  have honest := served.honest.rows_eq counted
  have keptRows : ∀ {table : OpenTable}, openedBy replies = some table →
      (ledger.kept table.session state).flatMap Prod.snd = copy.pump.delivered := by
    intro table found
    rw [(served.committed table found).kept, List.flatMap_map]
    rfl
  refine ⟨?_, rows.trans counted.rows, batches.trans counted.batches, fun nothing => ?_,
    fun found => ?_, fun found entry member => ?_, fun found => ?_, fun found => ?_,
    fun found again => ?_⟩
  · rw [received]
    exact ended
  · have unmoved := served.unopened nothing
    rw [rows, batches, counted.written, counted.delivered, unmoved]
    exact ⟨rfl, rfl⟩
  · rw [← same]
    exact (served.committed _ found).statement
  · rw [(served.committed _ found).kept] at member
    obtain ⟨delivery, _, rfl⟩ := List.mem_map.mp member
    rfl
  · rw [keptRows found, rows, honest]
  · rw [batches, counted.delivered, (served.committed _ found).kept, List.length_map]
  · cases received.symm.trans again
    exact keptRows found

/-- An account stands as long as the same was committed. -/
theorem IsAccounted.mono {mapping : TableMapping} {result : TableResult}
    (account : IsAccounted ledger plan mapping replies state result)
    (same : ledger.SameKept state after) :
    IsAccounted ledger plan mapping replies after result := by
  have keep : ∀ table : OpenTable, ledger.kept table.session after =
      ledger.kept table.session state := fun table => same table.session
  refine { account with alone := ?_, kept := ?_, batchesKept := ?_, delivered := ?_ }
  · intro table found
    rw [keep]
    exact account.alone found
  · intro table found
    rw [keep]
    exact account.kept found
  · intro table found
    rw [keep]
    exact account.batchesKept found
  · intro table copy found
    rw [keep]
    exact account.delivered found

end TableCopy

/-- A table that is done and did not crash has an account, and its result its names. -/
theorem Fleet.Course.isAccounted {plan : CopyPlan} {tables : List TableMapping}
    {events : List Fleet.Event} {fleet : Fleet} {start world : World σ δ}
    (has : servers.target.HasSessions ledger)
    (course : Course servers plan (ofMappings plan tables) start events fleet world)
    (done : fleet.isDone = true) (calm : IsCalm events) {position : Nat}
    {slot : Slot TableCopy TableResult} (found : fleet.crew.slots[position]? = some slot) :
    ∃ result, tableResult? slot = some result ∧ result.rows = slot.item.pump.rows ∧
      result.outcome.item = slot.item.mapping.source ∧
      result.target = slot.item.mapping.target ∧
      TableCopy.IsAccounted ledger plan slot.item.mapping (repliesTo position events) world.target
        result := by
  have finished := List.all_eq_true.mp done slot (List.mem_of_getElem? found)
  have served := (course.isServed has).1 found
  have stands := isAfter_afterAll course.afterAll_eq_some found
  generalize same : copyOf plan slot.item.mapping = origin at stands
  cases stands with
  | waiting | working => cases finished
  | crashed crash => cases calm _ crash
  | @left copy result received ended =>
    obtain ⟨source, target, rows, _⟩ := TableCopy.result?_eq_some ended
    subst same
    exact ⟨result, rfl, rows, source, target, served.isAccounted received rfl ended⟩

/-! ### The report -/

/-- **The report of a run accounts for tables**, between two states of the destination and after
events.

* `names`, `total` — it has one result for each table, in order and under its names, and its count
  of rows is the sum of theirs;
* `own` — each table has an account, of its own answers alone;
* `apart`, `nothingElse` — tables that were opened have different sessions, and in all other
  sessions nothing was committed. -/
structure AccountsFor (ledger : Ledger δ) (plan : CopyPlan) (tables : List TableMapping)
    (events : List Fleet.Event) (origin final : δ) (report : CopyReport) : Prop where
  names : report.tables.map (fun result => (result.outcome.item, result.target)) =
    tables.map fun mapping => (mapping.source, mapping.target)
  total : report.rows = (report.tables.map (·.rows)).sum
  own : ∀ {position : Nat} {mapping : TableMapping}, tables[position]? = some mapping →
    ∃ result, report.tables[position]? = some result ∧
      TableCopy.IsAccounted ledger plan mapping (Fleet.repliesTo position events) final result
  apart : ∀ {one other : Nat} {first second : OpenTable}, one ≠ other →
    Fleet.openedAt one events = some first → Fleet.openedAt other events = some second →
      first.session ≠ second.session
  nothingElse : ∀ session, (∀ position table, Fleet.openedAt position events = some table →
    table.session ≠ session) → ledger.kept session final = ledger.kept session origin

/-- **The report at the end of a course on which no table crashed** accounts for its tables. -/
theorem Fleet.Course.accountsFor {job : Job} {tables : List TableMapping}
    {events : List Fleet.Event} {fleet : Fleet} {start world : World σ δ}
    (has : servers.target.HasSessions ledger)
    (course : Course servers job.plan (ofMappings job.plan tables) start events fleet world)
    (done : fleet.isDone = true) (calm : IsCalm events) (estimate : Option Int)
    (disabled sequences enabled : List Outcome) :
    AccountsFor ledger job.plan tables events start.target world.target
      (fleet.report job estimate disabled sequences enabled) := by
  have accounted : ∀ slot ∈ fleet.crew.slots, ∃ result, tableResult? slot = some result ∧
      result.rows = slot.item.pump.rows ∧
      (result.outcome.item, result.target) =
        (slot.item.mapping.source, slot.item.mapping.target) := by
    intro slot member
    obtain ⟨position, found⟩ := List.getElem?_of_mem member
    obtain ⟨result, has, rows, source, target, _⟩ := course.isAccounted has done calm found
    exact ⟨result, has, rows, Prod.ext source target⟩
  have same : fleet.mappings = tables :=
    (mappings_afterAll course.afterAll_eq_some).trans (mappings_ofMappings job.plan tables)
  obtain ⟨_, apart⟩ := course.isServed has
  refine ⟨?_, ?_, fun {position mapping} found => ?_, apart.different, apart.rest⟩
  · rw [← same, mappings, List.map_map]
    refine map_filterMap_eq_map fun slot member => ?_
    obtain ⟨result, has, _, names⟩ := accounted slot member
    exact ⟨result, has, names⟩
  · refine (counted_afterAll course.afterAll_eq_some).trans (congrArg List.sum ?_)
    refine (map_filterMap_eq_map fun slot member => ?_).symm
    obtain ⟨result, has, rows, _⟩ := accounted slot member
    exact ⟨result, has, rows⟩
  · rw [← same, mappings, List.getElem?_map, Option.map_eq_some_iff] at found
    obtain ⟨slot, found, rfl⟩ := found
    obtain ⟨result, has, _, _, _, account⟩ := course.isAccounted has done calm found
    have all : fleet.results.map some = fleet.crew.slots.map tableResult? := by
      refine map_filterMap_eq_map fun slot member => ?_
      obtain ⟨result, has, _⟩ := accounted slot member
      exact ⟨result, has, has.symm⟩
    refine ⟨result, ?_, account⟩
    have entry := congrArg (·[position]?) all
    simp only [List.getElem?_map, found, Option.map_some, has, Option.map_eq_some_iff,
      Option.some.injEq] at entry
    obtain ⟨_, entry, rfl⟩ := entry
    exact entry

/-- Accounts stand between states in which the same was committed. -/
theorem AccountsFor.mono {plan : CopyPlan} {tables : List TableMapping} {events : List Fleet.Event}
    {before origin final after : δ} {report : CopyReport}
    (accounts : AccountsFor ledger plan tables events origin final report)
    (first : ledger.SameKept before origin) (last : ledger.SameKept final after) :
    AccountsFor ledger plan tables events before after report := by
  refine { accounts with own := fun found => ?_, nothingElse := fun session others => ?_ }
  · obtain ⟨result, entry, account⟩ := accounts.own found
    exact ⟨result, entry, account.mono last⟩
  · exact (last session).trans ((accounts.nothingElse session others).trans (first session))

/-- **Every row that was committed is counted once**, whatever the turns of a run are and whatever
fails in it: if no table crashes, its report accounts for the tables after the events of the run. -/
theorem copyEverything_accountsFor (has : servers.target.HasSessions ledger) (job : Job)
    {turns : List Fleet.Turn} (uncrashed : ∀ turn ∈ turns, turn.isCrash = false)
    (tables : List TableMapping) (estimate : Option Int) (world : World σ δ) :
    ∃ events fleet copied,
      Fleet.Course servers job.plan (.ofMappings job.plan tables)
        ((disableKeys servers job).run world).2 events fleet copied ∧
      AccountsFor ledger job.plan tables events world.target
        ((copyEverything servers job turns tables estimate).run world).2.target
        ((copyEverything servers job turns tables estimate).run world).1 := by
  obtain ⟨events, fleet, copied, disabled, before, sequences, between, enabled, after, first,
    course, done, calmly, second, third, whole⟩ :=
    Fleet.exists_course_copyEverything servers job turns tables estimate world
  have accounts := course.accountsFor has done (calmly uncrashed) estimate disabled sequences
    enabled
  rw [first, whole]
  rw [disableKeys, run_bestEffort] at first
  rw [catchUpSequences, run_bestEffort] at second
  rw [enableKeys, run_bestEffort] at third
  cases first
  cases second
  cases third
  refine ⟨events, fleet, copied, course, accounts.mono ?_ ?_⟩
  · exact has.sameKept_toggle _ _ world.target
  · exact (has.sameKept_synchronize _ copied.target).trans (has.sameKept_toggle _ _ _)

/-- Two tables in turns: one is moved in two batches, and between these the commit of the other one
fails and leaves its row waiting, which is never committed. -/
theorem copyEverything_accountsFor_two_tables :
    let world : World Source.Memory Target.Memory :=
      ⟨Shop.source, Shop.target [] [] [⟨"", 13, "full", 0⟩], []⟩
    let run := (copyEverything Shop.servers Shop.job Shop.turns Shop.tables (some 4)).run world
    Shop.servers.target.HasSessions Memory.ledger ∧
      (∀ turn ∈ Shop.turns, turn.isCrash = false) ∧
      (∃ events fleet copied,
        Fleet.Course Shop.servers Shop.job.plan (.ofMappings Shop.job.plan Shop.tables)
          ((disableKeys Shop.servers Shop.job).run world).2 events fleet copied ∧
        AccountsFor Memory.ledger Shop.job.plan Shop.tables events world.target run.2.target
          run.1) ∧
      run.1.tables.map (fun result => (result.rows, result.batches)) = [(3, 2), (0, 0)] := by
  intro world
  have uncrashed : ∀ turn ∈ Shop.turns, turn.isCrash = false := by decide
  have moved : ((copyEverything Shop.servers Shop.job Shop.turns Shop.tables (some 4)).run
      world).1.tables.map (fun result => (result.rows, result.batches)) = [(3, 2), (0, 0)] := by
    rw [Fleet.tables_copyEverything, Fleet.run_follow_of_planned (by decide +kernel)]
    decide +kernel
  exact ⟨Memory.hasSessions, uncrashed, copyEverything_accountsFor Memory.hasSessions Shop.job
    uncrashed Shop.tables (some 4) world, moved⟩

end SchemaFerry.Run
