/-
**What happens in the turns of a run.**

A turn lets one event happen, to the fleet and to the world (`Happens`), or none (`take_cases`). So
turns lead a run along a course of events; what every event keeps is true at its end, whichever the
turns were.

* `exists_course_follow` — the turns that a run takes are a course that ends when all tables are
  done, and on which no table crashes unless a turn says so;
* `Course.exists_steps` — on a course that is over the copy of every table was begun once and ended
  once, and no other step was noted;
* `ComesTo.exists_notes` — so what a run notes is fixed by what it comes to (`IsNoted`), up to the
  order in which the copies begin and end.
-/

import SchemaFerry.Proofs.Run.Reached
import SchemaFerry.Proofs.Run.Whole

namespace SchemaFerry.Run.Fleet

open SchemaFerry.Copy

variable {σ δ : Type}

/-- Whether a table crashes with an event. -/
def Event.isCrash : Event → Bool
  | .crash .. => true
  | _ => false

/-- No table crashes. -/
def IsCalm (events : List Event) : Prop :=
  ∀ event ∈ events, event.isCrash = false

theorem IsCalm.concat {events : List Event} {event : Event} (calm : IsCalm events)
    (last : event.isCrash = false) : IsCalm (events ++ [event]) := by
  intro other member
  rcases List.mem_append.mp member with early | late
  · exact calm other early
  · rwa [List.mem_singleton.mp late]

/-- Whether a table crashes in a turn. -/
def Turn.isCrash : Turn → Bool
  | .crash .. => true
  | _ => false

/-- **What an event does in a run**: a start is noted, an answer is the one that the servers give,
and a departure is noted. -/
inductive Happens (servers : Servers σ δ) (plan : CopyPlan) :
    Fleet → World σ δ → Event → Fleet → World σ δ → Prop
  | start {fleet : Fleet} (copy : TableCopy) {crew : Crew TableCopy Report.TableResult}
    (started : fleet.crew.start = some (copy, crew)) (world : World σ δ) :
    Happens servers plan fleet world .start { fleet with crew }
      (world.noted (.copy copy.mapping.source))
  | reply {fleet later : Fleet} (copy : TableCopy) {position : Nat} {reply : Reply}
    {world between : World σ δ} (found : fleet.crew.working? position = some copy)
    (asked : (copy.ask servers plan).run world = (some reply, between))
    (heard : fleet.after (.reply position reply) = some later) :
    Happens servers plan fleet world (.reply position reply) later between
  | leave {fleet later : Fleet} (copy : TableCopy) {position : Nat}
    (found : fleet.crew.working? position = some copy)
    (left : fleet.after (.leave position) = some later) (world : World σ δ) :
    Happens servers plan fleet world (.leave position) later
      (world.noted (.copied copy.mapping.source))
  | crash {fleet later : Fleet} (copy : TableCopy) {position : Nat} {text : String}
    (found : fleet.crew.working? position = some copy)
    (crashed : fleet.after (.crash position text) = some later) (world : World σ δ) :
    Happens servers plan fleet world (.crash position text) later
      (world.noted (.copied copy.mapping.source))

/-- **A course**: events that happen in turn. -/
inductive Course (servers : Servers σ δ) (plan : CopyPlan) (first : Fleet) (start : World σ δ) :
    List Event → Fleet → World σ δ → Prop
  | rest : Course servers plan first start [] first start
  | more {events : List Event} {fleet later : Fleet} {world after : World σ δ} {event : Event}
    (course : Course servers plan first start events fleet world)
    (happens : Happens servers plan fleet world event later after) :
    Course servers plan first start (events ++ [event]) later after

section Courses

variable {servers : Servers σ δ} {plan : CopyPlan} {first fleet later : Fleet}
  {start world after : World σ δ} {event : Event} {events : List Event}

/-- What happens in a run can happen to its fleet. -/
theorem Happens.after_eq_some (happens : Happens servers plan fleet world event later after) :
    fleet.after event = some later := by
  cases happens with
  | start _ started =>
    rw [Fleet.after, started]
    rfl
  | reply _ _ _ heard => exact heard
  | leave _ _ left => exact left
  | crash _ _ crashed => exact crashed

/-- What happens on a course leads the fleet along. -/
theorem Course.afterAll_eq_some (course : Course servers plan first start events later after) :
    first.afterAll events = some later := by
  induction course with
  | rest => rfl
  | more _ happens ih => exact foldlM_concat ih happens.after_eq_some

/-! ### The turns of a run -/

/-- **A turn lets one event happen, or none.** -/
theorem take_cases (servers : Servers σ δ) (plan : CopyPlan) (fleet : Fleet) (turn : Turn)
    (world : World σ δ) :
    (fleet.take servers plan turn).run world = (fleet, world) ∨
      ∃ event later after, (fleet.take servers plan turn).run world = (later, after) ∧
        Happens servers plan fleet world event later after ∧
        (turn.isCrash = false → event.isCrash = false) := by
  cases turn with
  | start =>
    rcases started : fleet.crew.start with _ | ⟨copy, crew⟩
    · left
      simp only [take, begin, started]
      rfl
    · right
      exact ⟨.start, _, _, run_begin started world, .start copy started world, fun _ => rfl⟩
  | advance position =>
    rcases found : fleet.crew.working? position with _ | copy
    · left
      simp only [take, found]
      rfl
    · right
      simp only [take, found, goOn, StateT.run_bind]
      rcases asked : (copy.ask servers plan).run world with ⟨answer, between⟩
      cases answer with
      | some reply =>
        obtain ⟨next, received⟩ := Option.isSome_iff_exists.mp (TableCopy.ask_eq_some asked).1
        have heard := hear_of_receive found received
        refine ⟨.reply position reply, _, between, ?_, .reply copy found asked heard, fun _ => rfl⟩
        show ((fleet.after (.reply position reply)).getD fleet, between) = _
        rw [heard]
        rfl
      | none =>
        obtain ⟨⟨result, need⟩, rfl⟩ := TableCopy.ask_eq_none asked
        obtain ⟨later, left⟩ := exists_leave found (TableCopy.result?_of_need need)
        exact ⟨.leave position, later, _, run_depart left between, .leave copy found left between,
          fun _ => rfl⟩
  | crash position text =>
    rcases found : fleet.crew.working? position with _ | copy
    · left
      simp only [take, found]
      rfl
    · rcases crashed : fleet.after (.crash position text) with _ | later
      · left
        simp only [take, found, depart, crashed]
        rfl
      · right
        simp only [take, found]
        exact ⟨.crash position text, later, _, run_depart crashed world,
          .crash copy found crashed world, (by rintro ⟨⟩)⟩

/-- **Turns that are planned go on with a course.** -/
theorem Course.exists_foldlM (turns : List Turn)
    (course : Course servers plan first start events fleet world) :
    ∃ all later after, (turns.foldlM (take servers plan) fleet).run world = (later, after) ∧
      Course servers plan first start all later after ∧
      ((∀ turn ∈ turns, turn.isCrash = false) → IsCalm events → IsCalm all) := by
  induction turns generalizing events fleet world with
  | nil => exact ⟨events, fleet, world, rfl, course, fun _ calm => calm⟩
  | cons turn turns ih =>
    rw [List.foldlM_cons, StateT.run_bind]
    rcases take_cases servers plan fleet turn world with
      nothing | ⟨event, between, reached, taken, happens, calmly⟩
    · rw [nothing]
      obtain ⟨all, later, after, same, course, safe⟩ := ih course
      exact ⟨all, later, after, same, course,
        fun uncrashed => safe fun turn member => uncrashed turn (List.mem_cons_of_mem _ member)⟩
    · rw [taken]
      obtain ⟨all, later, after, same, course, safe⟩ := ih (course.more happens)
      refine ⟨all, later, after, same, course, fun uncrashed calm => ?_⟩
      exact safe (fun turn member => uncrashed turn (List.mem_cons_of_mem _ member))
        (calm.concat (calmly (uncrashed turn List.mem_cons_self)))

/-- A fleet without a turn to take is done, if there is a permit. -/
theorem isDone_of_turn?_eq_none (permitted : 0 < fleet.crew.permits) (stuck : fleet.turn? = none) :
    fleet.isDone = true := by
  unfold turn? at stuck
  split at stuck
  · cases stuck
  · next noFirst => exact Crew.isDone_of_stuck permitted (Option.map_eq_none_iff.mp stuck) noFirst

/-- No table crashes in a turn that is not planned. -/
theorem isCrash_of_turn? {turn : Turn} (chosen : fleet.turn? = some turn) :
    turn.isCrash = false := by
  unfold turn? at chosen
  split at chosen
  · cases chosen
    rfl
  · obtain ⟨_, _, rfl⟩ := Option.map_eq_some_iff.mp chosen
    rfl

/-- **Turns that are not planned lead a course to its end.** -/
theorem Course.exists_settle (permitted : 0 < first.crew.permits)
    (course : Course servers plan first start events fleet world) :
    ∃ all later after, settle servers plan fleet world = (later, after) ∧
      Course servers plan first start all later after ∧ later.isDone = true ∧
      (IsCalm events → IsCalm all) := by
  fun_induction settle servers plan fleet world generalizing events with
  | case1 fleet world stuck =>
    rw [← permits_afterAll course.afterAll_eq_some] at permitted
    exact ⟨events, fleet, world, rfl, course, isDone_of_turn?_eq_none permitted stuck, id⟩
  | case2 fleet world turn chosen next =>
    rename_i ih
    rcases take_cases servers plan fleet turn world with
      nothing | ⟨event, between, reached, taken, happens, calmly⟩
    · have same : next = (fleet, world) := nothing
      rw [same] at ih ⊢
      exact ih course
    · have same : next = (between, reached) := taken
      rw [same] at ih ⊢
      obtain ⟨all, later, after, same, course, done, safe⟩ := ih (course.more happens)
      exact ⟨all, later, after, same, course, done,
        fun calm => safe (calm.concat (calmly (isCrash_of_turn? chosen)))⟩

/-- **The turns of a run are a course to the end**, on which no table crashes unless a turn says
so. -/
theorem exists_course_follow (servers : Servers σ δ) (plan : CopyPlan)
    (permitted : 0 < first.crew.permits) (turns : List Turn) (start : World σ δ) :
    ∃ events later after, (follow servers plan turns first).run start = (later, after) ∧
      Course servers plan first start events later after ∧ later.isDone = true ∧
      ((∀ turn ∈ turns, turn.isCrash = false) → IsCalm events) := by
  have course : Course servers plan first start [] first start := .rest
  obtain ⟨events, fleet, world, planned, course, calmly⟩ := course.exists_foldlM turns
  obtain ⟨all, later, after, settled, course, done, safe⟩ := course.exists_settle permitted
  refine ⟨all, later, after, ?_, course, done, fun uncrashed => safe (calmly uncrashed nofun)⟩
  rw [follow, StateT.run_bind, planned]
  exact settled

/-! ### What is noted -/

/-- A call that notes nothing. -/
def NotesNothing {α : Type} (call : Session (World σ δ) α) : Prop :=
  call.Moves fun before after => after.journal = before.journal

theorem NotesNothing.bind {α β : Type} {call : Session (World σ δ) α}
    {next : α → Session (World σ δ) β} (one : NotesNothing call)
    (others : ∀ value, NotesNothing (next value)) : NotesNothing (call >>= next) :=
  Session.Moves.bind one others (fun _ _ _ before after => after.trans before) fun _ _ => id

/-- The opening of a table notes nothing. -/
theorem notesNothing_openTable (mapping : TableMapping) :
    NotesNothing (openTable servers plan mapping) := by
  have onSource : ∀ {α : Type} (call : Session σ α),
      NotesNothing (World.onSource call : Session (World σ δ) α) := fun _ _ => rfl
  refine (onSource _).bind fun transaction => (onSource _).bind fun _ =>
    (onSource _).bind fun columns => ?_
  have opens : ∀ _ : PUnit, NotesNothing (do
      let types ← World.onSource (servers.source.openRows transaction
        (projection (baseQuery plan.sourceSchema mapping) columns))
      let session ← World.onTarget servers.target.openSession
      return (⟨transaction, wireColumns columns types, session,
        insertion plan.targetSchema mapping.target columns⟩ : OpenTable)) := by
    intro _
    exact (onSource _).bind fun _ => NotesNothing.bind (fun _ => rfl) fun _ _ => rfl
  split
  · exact NotesNothing.bind (fun _ => rfl) opens
  · exact opens ⟨⟩

/-- A copy that asks for what it needs notes nothing. -/
theorem journal_ask (servers : Servers σ δ) (plan : CopyPlan) (copy : TableCopy)
    (world : World σ δ) :
    ((copy.ask servers plan).run world).2.journal = world.journal := by
  unfold TableCopy.ask
  split
  · exact notesNothing_openTable copy.mapping world
  all_goals rfl

/-- What is noted of a table up to where it stands. -/
def slotSteps (slot : Slot TableCopy Report.TableResult) : List Step :=
  match slot.standing with
  | .waiting => []
  | .working => [.copy slot.item.mapping.source]
  | .finished _ => [.copy slot.item.mapping.source, .copied slot.item.mapping.source]

/-- **An event is noted of the table that it takes a step further.** -/
theorem Happens.exists_notes (happens : Happens servers plan fleet world event later after) :
    ∃ notes position old new, world.Notes notes after ∧
      fleet.crew.slots[position]? = some old ∧
      later.crew.slots = fleet.crew.slots.set position new ∧
      slotSteps new = slotSteps old ++ notes := by
  obtain ⟨place, old, new, slot, step, slots, _⟩ := after_cases happens.after_eq_some
  cases happens with
  | start copy started =>
    obtain ⟨position, next, _, rfl⟩ := Crew.start_cases started
    exact ⟨[.copy copy.mapping.source], position, .waiting copy, .working copy, rfl,
      Crew.getElem?_of_nextIn next, rfl, rfl⟩
  | reply copy found asked heard =>
    refine ⟨[], place, old, new, ?_, slot, slots, ?_⟩
    · have same := journal_ask servers plan copy world
      rwa [asked] at same
    · have kept := step.mapping_eq
      cases step with
      | reply _ received => exact congrArg (fun mapping => [Step.copy mapping.source]) kept
  | leave copy found left =>
    cases step with
    | leave _ ended =>
      cases slot.symm.trans (Crew.working?_eq_some_iff.mp found)
      exact ⟨[.copied copy.mapping.source], place, _, _, rfl, slot, slots, rfl⟩
  | crash copy found crashed =>
    cases step with
    | crash _ _ _ =>
      cases slot.symm.trans (Crew.working?_eq_some_iff.mp found)
      exact ⟨[.copied copy.mapping.source], place, _, _, rfl, slot, slots, rfl⟩

/-- **On a course** each table is noted up to where it stands, and nothing else is noted. -/
theorem Course.exists_steps (course : Course servers plan first start events fleet world)
    (fresh : first.crew.slots.flatMap slotSteps = []) :
    ∃ steps, start.Notes steps world ∧
      steps.Perm (fleet.crew.slots.flatMap slotSteps) := by
  induction course with
  | rest => exact ⟨[], rfl, fresh ▸ .nil⟩
  | more _ happens ih =>
    obtain ⟨steps, noted, each⟩ := ih
    obtain ⟨notes, position, old, new, added, found, slots, more⟩ := happens.exists_notes
    obtain ⟨rest, before, replaced⟩ := exists_perm_set found new
    refine ⟨steps ++ notes, noted.append added, ?_⟩
    rw [slots]
    refine List.Perm.trans ?_ (replaced.flatMap_right slotSteps).symm
    rw [List.flatMap_cons, more, List.append_assoc]
    refine ((each.trans (before.flatMap_right slotSteps)).append_right notes).trans ?_
    rw [List.flatMap_cons, List.append_assoc]
    exact List.perm_append_comm.append_left _

/-- A table that is done was begun and ended. -/
theorem flatMap_slotSteps_of_isDone (done : fleet.isDone = true) :
    fleet.crew.slots.flatMap slotSteps =
      fleet.mappings.flatMap fun mapping => [.copy mapping.source, .copied mapping.source] := by
  rw [mappings, List.flatMap_map]
  refine List.flatMap_congr fun slot member => ?_
  have ended := List.all_eq_true.mp done slot member
  obtain ⟨copy, standing⟩ := slot
  cases standing with
  | waiting | working => cases ended
  | finished result => rfl

end Courses

/-! ### The copying of a run -/

/-- A fleet that waits for its first start has a permit. -/
theorem permits_ofMappings (plan : CopyPlan) (tables : List TableMapping) :
    0 < (ofMappings plan tables).crew.permits := by
  rw [ofMappings, Crew.permits_ofItems]
  exact Nat.lt_of_lt_of_le Nat.one_pos (Nat.le_max_right ..)

/-- Nothing is noted of a fleet that waits for its first start. -/
theorem flatMap_slotSteps_ofMappings (plan : CopyPlan) (tables : List TableMapping) :
    (ofMappings plan tables).crew.slots.flatMap slotSteps = [] := by
  refine List.flatMap_eq_nil_iff.mpr fun slot member => ?_
  obtain ⟨copy, _, rfl⟩ := List.mem_map.mp member
  rfl

/-- **Copying everything** is a course to the end of all tables between the steps around it. -/
theorem exists_course_copyEverything (servers : Servers σ δ) (job : Job) (turns : List Turn)
    (tables : List TableMapping) (estimate : Option Int) (world : World σ δ) :
    ∃ events fleet copied disabled before sequences between enabled after,
      (disableKeys servers job).run world = (disabled, before) ∧
      Course servers job.plan (ofMappings job.plan tables) before events fleet copied ∧
      fleet.isDone = true ∧ ((∀ turn ∈ turns, turn.isCrash = false) → IsCalm events) ∧
      (catchUpSequences servers job).run (copied.noted (.enter .finalizing)) =
        (sequences, between) ∧
      (enableKeys servers job).run between = (enabled, after) ∧
      (copyEverything servers job turns tables estimate).run world =
        (fleet.report job estimate disabled sequences enabled, after) := by
  rcases first : (disableKeys servers job).run world with ⟨disabled, before⟩
  obtain ⟨events, fleet, copied, followed, course, done, calmly⟩ :=
    exists_course_follow servers job.plan (permits_ofMappings job.plan tables) turns before
  rcases second : (catchUpSequences servers job).run (copied.noted (.enter .finalizing)) with
    ⟨sequences, between⟩
  rcases third : (enableKeys servers job).run between with ⟨enabled, after⟩
  exact ⟨events, fleet, copied, disabled, before, sequences, between, enabled, after, rfl, course,
    done, calmly, second, third, run_copyEverything first followed second third⟩

/-- The tables of the report are those of the fleet at the end of its turns. -/
theorem tables_copyEverything (servers : Servers σ δ) (job : Job) (turns : List Turn)
    (tables : List TableMapping) (estimate : Option Int) (world : World σ δ) :
    ((copyEverything servers job turns tables estimate).run world).1.tables =
      ((follow servers job.plan turns (ofMappings job.plan tables)).run
        ((disableKeys servers job).run world).2).1.results := rfl

/-- What is noted of copying everything: each table is begun and ended, between the steps around
the copying. -/
theorem notes_copyEverything {servers : Servers σ δ} {job : Job} {turns : List Turn}
    {tables : List TableMapping} {estimate : Option Int} {report : Report.CopyReport}
    {world after : World σ δ}
    (whole : (copyEverything servers job turns tables estimate).run world = (report, after)) :
    ∃ copies : List Step, world.Notes ([.disableKeys] ++ copies ++
        [.enter .finalizing, .catchUpSequences, .enableKeys]) after ∧
      copies.Perm (tables.flatMap fun mapping =>
        [.copy mapping.source, .copied mapping.source]) := by
  obtain ⟨events, fleet, copied, disabled, before, sequences, between, enabled, last, first, course,
    finished, _, second, third, same⟩ :=
    exists_course_copyEverything servers job turns tables estimate world
  obtain ⟨rfl, rfl⟩ := Prod.mk.inj (whole.symm.trans same)
  obtain ⟨copies, noted, once⟩ :=
    course.exists_steps (flatMap_slotSteps_ofMappings job.plan tables)
  rw [flatMap_slotSteps_of_isDone finished, mappings_afterAll course.afterAll_eq_some,
    mappings_ofMappings] at once
  refine ⟨copies, ?_, once⟩
  have steps := ((((notes_bestEffort first).append noted).concat (.enter .finalizing)).append
    (notes_bestEffort second)).append (notes_bestEffort third)
  simp only [List.append_assoc] at steps ⊢
  exact steps

end SchemaFerry.Run.Fleet

/-! ### What is noted of a run -/

namespace SchemaFerry.Run

open SchemaFerry.Report

variable {σ δ : Type} {servers : Servers σ δ} {job : Job} {turns : List Fleet.Turn} {isBusy : Bool}
  {world after : World σ δ} {outcome : Except Fault RunOutcome}

/-- What is noted of a run that stops under the lock after some steps. -/
def stoppedCourse (done : List Step) : List Step :=
  [.enter .lockPending, .askForLock, .gotLock, .enter .running] ++ done ++
    [.releaseLock, .enter .idle]

/-- What is noted of a run that is completed, with the copies of its tables. -/
def wholeCourse (copies : List Step) : List Step :=
  [.enter .lockPending, .askForLock, .gotLock, .enter .running, .openSource, .openTarget, .list,
    .count, .disableKeys] ++ copies ++
    [.enter .finalizing, .catchUpSequences, .enableKeys, .releaseLock, .enter .idle]

/-- **What is noted of a run**, by what it comes to. -/
inductive IsNoted : List Step → Except Fault RunOutcome → Prop
  | turnedAway : IsNoted [] (.ok busy)
  | unlocked (fault : Fault) :
    IsNoted [.enter .lockPending, .askForLock, .enter .idle] (.error fault)
  | lockedOut : IsNoted [.enter .lockPending, .askForLock, .enter .idle] (.ok lockedOut)
  | stopped (fault : Fault) {done : List Step}
    (front : done <+: [.openSource, .openTarget, .list, .count]) :
    IsNoted (stoppedCourse done) (.error fault)
  | completed (report : CopyReport) {copies : List Step} {tables : List Copy.TableMapping}
    (once : copies.Perm (tables.flatMap fun mapping =>
      [.copy mapping.source, .copied mapping.source])) :
    IsNoted (wholeCourse copies) (.ok (.completed report))

/-- A run that is completed has noted its whole course. -/
theorem notes_wholeCourse {tables : List Copy.TableMapping} {estimate : Option Int}
    {report : CopyReport} {locked found copied : World σ δ}
    (lock : (takeLock servers job).result (world.noted (.enter .lockPending)) = (.ok true, locked))
    (discovered : (prepare servers job).result (locked.noted (.enter .running)) =
      (.ok (tables, estimate), found))
    (whole : (copyEverything servers job turns tables estimate).run found = (report, copied)) :
    ∃ copies : List Step,
      world.Notes (wholeCourse copies) ((copied.released servers job).noted (.enter .idle)) ∧
        copies.Perm (tables.flatMap fun mapping =>
          [.copy mapping.source, .copied mapping.source]) := by
  obtain ⟨asked, _⟩ := takeLock_cases lock
  obtain ⟨done, prepared, _, all⟩ := notes_prepare discovered
  obtain rfl := all _ rfl
  obtain ⟨copies, noted, once⟩ := Fleet.notes_copyEverything whole
  have steps := ((((((world.notes_noted _).append asked).concat (.enter .running)).append
    prepared).append noted).released servers job).concat (.enter .idle)
  simp only [List.append_assoc] at steps
  exact ⟨copies, steps, once⟩

/-- **Every run notes what it comes to.** -/
theorem ComesTo.exists_notes (comes : ComesTo servers job turns world isBusy outcome after) :
    ∃ steps, world.Notes steps after ∧ IsNoted steps outcome := by
  cases comes with
  | turnedAway => exact ⟨[], rfl, .turnedAway⟩
  | unlocked lock =>
    obtain ⟨asked, _⟩ := takeLock_cases lock
    exact ⟨_, ((world.notes_noted _).append asked).concat (.enter .idle), .unlocked _⟩
  | lockedOut lock =>
    obtain ⟨asked, _⟩ := takeLock_cases lock
    exact ⟨_, ((world.notes_noted _).append asked).concat (.enter .idle), .lockedOut⟩
  | stopped lock failed =>
    obtain ⟨asked, _⟩ := takeLock_cases lock
    obtain ⟨done, noted, front, _⟩ := notes_prepare failed
    have steps := (((((world.notes_noted _).append asked).concat (.enter .running)).append
      noted).released servers job).concat (.enter .idle)
    simp only [List.append_assoc] at steps
    exact ⟨stoppedCourse done, steps, .stopped _ front⟩
  | completed lock discovered whole =>
    obtain ⟨copies, noted, once⟩ := notes_wholeCourse lock discovered whole
    exact ⟨wholeCourse copies, noted, .completed _ once⟩

/-- The report of a run that is completed. -/
def reportOf? : Except Fault RunOutcome → Option CopyReport
  | .ok (.completed report) => some report
  | _ => none

theorem eq_of_reportOf? {outcome : Except Fault RunOutcome} {report : CopyReport}
    (given : reportOf? outcome = some report) : outcome = .ok (.completed report) := by
  match outcome with
  | .ok (.completed _) => rw [Option.some.inj given]
  | .ok (.skipped _) | .error _ => cases given

end SchemaFerry.Run
