/-
**What the tables of a run commit.**

The copy of a table writes in a session of its own, that of the answer which opened the table
(`openedBy`). As long as copies are served by a destination whose sessions are apart
(`Target.Server.HasSessions`), what a copy delivered is what its session committed, and no event
changes that of another table.

* `TableCopy.IsServed.receive` — a copy that asks is served with the answer that it is given;
* `Fleet.Course.isServed` — so on a course every copy is served, the sessions of the tables are
  different ones, and all other sessions committed what they had committed before.
-/

import SchemaFerry.Proofs.Run.Answers
import SchemaFerry.Proofs.Run.Moves
import SchemaFerry.Proofs.Target.Sessions

namespace SchemaFerry.Run

open SchemaFerry.Copy SchemaFerry.Report SchemaFerry.Target

variable {σ δ : Type} {ledger : Ledger δ} {servers : Servers σ δ} {plan : CopyPlan}

/-- The table that was opened with an answer. -/
def Reply.table? : Reply → Option OpenTable
  | opened (.ok table) => some table
  | _ => none

/-- The table that was opened with answers. -/
def openedBy (replies : List Reply) : Option OpenTable :=
  replies.findSome? Reply.table?

theorem openedBy_concat (replies : List Reply) (reply : Reply) :
    openedBy (replies ++ [reply]) = (openedBy replies).or reply.table? := by
  rw [openedBy, List.findSome?_append, List.findSome?_singleton]
  rfl

/-- **A table is opened** in a session of the destination, with the statement that fills it. -/
theorem openTable_eq_ok {mapping : TableMapping} {table : OpenTable} {world after : World σ δ}
    (given : (openTable servers plan mapping).result world = (.ok table, after)) :
    servers.target.openSession.result world.target = (.ok table.session, after.target) ∧
      ∃ columns, table.statement = insertion plan.targetSchema mapping.target columns := by
  have still : ∀ {α : Type} {call : Session σ α} {before between : World σ δ} {value : α},
      (World.onSource call : Session (World σ δ) α).result before = (.ok value, between) →
        between.target = before.target := by
    intro α call before between value made
    exact (congrArg (fun given => given.2.target) made).symm
  obtain ⟨_, begun, first, given⟩ := Session.result_bind_eq_ok_iff.mp given
  obtain ⟨_, limited, second, given⟩ := Session.result_bind_eq_ok_iff.mp given
  obtain ⟨columns, prepared, third, given⟩ := Session.result_bind_eq_ok_iff.mp given
  have before := (still third).trans ((still second).trans (still first))
  dsimp only at given
  split at given
  · obtain ⟨_, _, thrown, _⟩ := Session.result_bind_eq_ok_iff.mp given
    cases thrown
  · obtain ⟨_, reading, fourth, given⟩ := Session.result_bind_eq_ok_iff.mp given
    obtain ⟨session, _, taken, given⟩ := Session.result_bind_eq_ok_iff.mp given
    cases given
    rw [← before, ← still fourth]
    obtain ⟨value, rfl⟩ := Prod.mk.inj taken
    exact ⟨Prod.ext value rfl, columns, rfl⟩

/-! ### One table -/

namespace TableCopy

/-- The writes of a copy counted the rows that they were given. -/
def IsHonest (copy : TableCopy) : Prop :=
  ∀ delivery ∈ copy.pump.deliveries, delivery.written = delivery.rows.length

/-- **The deliveries of a copy are what its session committed**, for a table that is open; nothing
waits in the session while the copy goes on. -/
structure IsCommitted (ledger : Ledger δ) (plan : CopyPlan) (state : δ) (table : OpenTable)
    (copy : TableCopy) : Prop where
  statement : ∃ columns, table.statement = insertion plan.targetSchema copy.mapping.target columns
  kept : ledger.kept table.session state =
    copy.pump.deliveries.map fun delivery => (table.statement, delivery.rows)
  idle : copy.pump.hasEnded = false → ledger.waiting table.session state = []

/-- **A copy is served** by a destination in a state, where a table was opened for it or not. -/
structure IsServed (ledger : Ledger δ) (plan : CopyPlan) (state : δ) (opened : Option OpenTable)
    (copy : TableCopy) : Prop where
  honest : copy.IsHonest
  present : ∀ rows, copy.pump.phase = .writing rows → rows ≠ []
  opening : copy.stage = .opening → opened = none
  moving : ∀ table, copy.stage = .moving table → opened = some table
  unopened : opened = none → copy.pump.deliveries = []
  committed : ∀ table, opened = some table → copy.IsCommitted ledger plan state table

variable {copy next : TableCopy} {reply : Reply} {opened : Option OpenTable} {state after : δ}
  {world between : World σ δ}

/-- A copy is served as long as nothing becomes of its session. -/
theorem IsServed.mono {sessions : Set Nat} (served : copy.IsServed ledger plan state opened)
    (keeps : ledger.Keeps sessions state after)
    (own : ∀ table, opened = some table → table.session ∈ sessions) :
    copy.IsServed ledger plan after opened := by
  refine { served with committed := fun table found => ?_ }
  obtain ⟨statement, kept, idle⟩ := served.committed table found
  have member := own table found
  exact ⟨statement, (keeps.kept _ member).trans kept,
    fun active => (keeps.waiting _ member).trans (idle active)⟩

/-- A copy that needs its table has not opened it. -/
theorem stage_of_need_table (need : copy.need = .table) : copy.stage = .opening := by
  unfold TableCopy.need at need
  split at need
  · assumption
  · unfold Need.ofPhase at need
    split at need <;> cases need
  · cases need

/-- A fetch leaves the deliveries of a copy as they are, and gives rows to write or none. -/
theorem IsServed.fetched (served : copy.IsServed ledger plan state opened)
    (fetching : copy.pump.phase = .fetching) (rows : Except Fault (List Target.Row)) :
    IsServed ledger plan state opened
      { copy with pump := copy.pump.fetched copy.size () rows } := by
  have same := Pump.deliveries_fetched copy.pump copy.size () rows
  refine ⟨?_, ?_, served.opening, served.moving, fun nothing => same.trans (served.unopened nothing),
    fun table found => ?_⟩
  · intro delivery member
    rw [same] at member
    exact served.honest delivery member
  · intro held writing
    match rows, writing with
    | .error _, writing | .ok [], writing => cases writing
    | .ok (row :: rest), writing =>
      cases writing
      exact List.cons_ne_nil row rest
  · obtain ⟨statement, kept, idle⟩ := served.committed table found
    refine ⟨statement, kept.trans (by rw [same]), fun _ => idle ?_⟩
    rw [Pump.hasEnded, fetching]

/-- A copy that has come to its end is served as before. -/
theorem IsServed.ended (served : copy.IsServed ledger plan state opened)
    (result : Except Fault Unit) :
    IsServed ledger plan state opened { copy with stage := .ended result } := by
  refine ⟨served.honest, served.present, nofun, nofun, served.unopened, fun table found => ?_⟩
  obtain ⟨statement, kept, idle⟩ := served.committed table found
  exact ⟨statement, kept, idle⟩

/-- A write that failed committed nothing, so it is no delivery. -/
theorem IsServed.unwritten (served : copy.IsServed ledger plan state opened) {table : OpenTable}
    (found : opened = some table)
    (same : ledger.kept table.session after = ledger.kept table.session state)
    (rows : List Target.Row) (fault : Fault) :
    IsServed ledger plan after opened
      { copy with pump := copy.pump.wrote copy.mapping.source copy.size rows () (.error fault) } := by
  have deliveries := Pump.deliveries_wrote_error copy.pump copy.mapping.source copy.size rows () fault
  refine ⟨?_, nofun, served.opening, served.moving,
    fun nothing => deliveries.trans (served.unopened nothing), fun other alsoFound => ?_⟩
  · intro delivery member
    rw [deliveries] at member
    exact served.honest delivery member
  · cases found.symm.trans alsoFound
    obtain ⟨statement, kept, _⟩ := served.committed table found
    exact ⟨statement, (same.trans kept).trans (by rw [deliveries]), nofun⟩

/-- A write that was committed is a delivery. -/
theorem IsServed.written (served : copy.IsServed ledger plan state opened) {table : OpenTable}
    (found : opened = some table) {rows : List Target.Row}
    (sent : ledger.waiting table.session after = [])
    (more : ledger.kept table.session after =
      ledger.kept table.session state ++ [(table.statement, rows)]) :
    IsServed ledger plan after opened
      { copy with
        pump := copy.pump.wrote copy.mapping.source copy.size rows () (.ok rows.length) } := by
  have deliveries := Pump.deliveries_wrote_ok copy.pump copy.mapping.source copy.size rows ()
    rows.length
  refine ⟨?_, ?_, served.opening, served.moving, ?_, fun other alsoFound => ?_⟩
  · intro delivery member
    rw [deliveries] at member
    rcases List.mem_append.mp member with early | late
    · exact served.honest delivery early
    · rw [List.mem_singleton.mp late]
  · intro held again
    simp only [Pump.wrote] at again
    split at again <;> cases again
  · intro nothing
    cases found.symm.trans nothing
  · cases found.symm.trans alsoFound
    obtain ⟨statement, kept, _⟩ := served.committed table found
    refine ⟨statement, ?_, fun _ => sent⟩
    rw [more, kept, deliveries, List.map_append]
    rfl

/-- **A write** is a delivery if and only if it is committed. -/
theorem IsServed.wrote (has : servers.target.HasSessions ledger)
    (served : copy.IsServed ledger plan state opened) {table : OpenTable} {rows : List Target.Row}
    (stage : copy.stage = .moving table) (writing : copy.pump.phase = .writing rows)
    {written : Except Fault Nat}
    (made : ((servers.target.writer table.session).writeBatch table.statement rows).result state =
      (written, after)) :
    IsServed ledger plan after opened
      { copy with pump := copy.pump.wrote copy.mapping.source copy.size rows () written } := by
  have found := served.moving table stage
  have noneWaits : ledger.waiting table.session state = [] := by
    refine (served.committed table found).idle ?_
    rw [Pump.hasEnded, writing]
  rcases has.result_writeBatch (served.present rows writing) noneWaits made with
    ⟨fault, rfl, same⟩ | ⟨rfl, sent, more⟩
  · exact served.unwritten found same rows fault
  · exact served.written found sent more

/-- **A table is opened** in a new session, in which nothing was committed yet; nothing becomes of
all other sessions. -/
theorem IsServed.begins (has : servers.target.HasSessions ledger)
    (served : copy.IsServed ledger plan world.target opened) (need : copy.need = .table)
    {table : OpenTable}
    (given : (openTable servers plan copy.mapping).result world = (.ok table, between)) :
    opened = none ∧ ledger.Keeps Set.univ world.target between.target ∧
      (¬ ledger.isOpen table.session world.target ∧ ledger.isOpen table.session between.target) ∧
      IsServed ledger plan between.target (some table) { copy with stage := .moving table } := by
  obtain ⟨session, statement⟩ := openTable_eq_ok given
  obtain ⟨new, there, idle, empty⟩ := has.openSession session
  have keeps := ((openTable_along servers.source.movesBesidesLock_true (has.along "")
    copy.mapping).along given).target
  have unopened := served.opening (stage_of_need_table need)
  have nothing := served.unopened unopened
  refine ⟨unopened, keeps, ⟨new, there⟩, served.honest, served.present, nofun, ?_, nofun, ?_⟩
  · rintro other ⟨⟩
    rfl
  · rintro other ⟨⟩
    refine ⟨statement, ?_, fun _ => idle⟩
    rw [empty]
    exact (congrArg (List.map _) nothing).symm

/-- **A copy that asks is served** with the answer that it is given: with a new session if its table
is opened; and nothing becomes of sessions but its own. -/
theorem IsServed.receive (has : servers.target.HasSessions ledger)
    (served : copy.IsServed ledger plan world.target opened)
    (asked : (copy.ask servers plan).run world = (some reply, between))
    (received : copy.receive reply = some next) :
    next.IsServed ledger plan between.target (opened.or reply.table?) ∧
      ledger.Keeps {session | ∀ table, opened = some table → session ≠ table.session}
        world.target between.target ∧
      ∀ table, reply.table? = some table → opened = none ∧
        ¬ ledger.isOpen table.session world.target ∧
        ledger.isOpen table.session between.target := by
  have unopening : ∀ other : Reply, other.table? = none → opened.or other.table? = opened := by
    intro other silent
    rw [silent, Option.or_none]
  unfold TableCopy.ask at asked
  rcases receive_cases received with ⟨table, need, rfl, rfl⟩ | ⟨fault, need, rfl, rfl⟩ |
    ⟨table, rows, need, rfl, rfl⟩ | ⟨table, rows, count, need, rfl, rfl⟩ |
    ⟨table, result, need, rfl, rfl⟩
  · rw [need] at asked
    obtain ⟨given, rfl⟩ := TableCopy.answer_eq_some asked
    obtain ⟨rfl, keeps, new, opening⟩ := served.begins has need
      (Prod.ext (Reply.opened.inj given).symm rfl)
    refine ⟨opening, keeps.mono fun _ _ => trivial, ?_⟩
    rintro other ⟨⟩
    exact ⟨rfl, new⟩
  · rw [need] at asked
    obtain ⟨given, rfl⟩ := TableCopy.answer_eq_some asked
    have keeps : ledger.Keeps Set.univ world.target
        ((openTable servers plan copy.mapping).result world).2.target :=
      (openTable_along servers.source.movesBesidesLock_true (has.along "") copy.mapping world).target
    have unopened := served.opening (stage_of_need_table need)
    subst unopened
    exact ⟨(served.mono keeps fun _ _ => trivial).ended _, keeps.mono fun _ _ => trivial, nofun⟩
  · rw [need] at asked
    obtain ⟨_, rfl⟩ := TableCopy.answer_eq_some asked
    obtain ⟨stage, fetching⟩ := phase_of_need_rows need
    rw [unopening (.fetched rows) rfl]
    exact ⟨served.fetched fetching rows, .refl _, nofun⟩
  · rw [need] at asked
    obtain ⟨given, rfl⟩ := TableCopy.answer_eq_some asked
    obtain ⟨stage, writing⟩ := phase_of_need_write need
    have found := served.moving table stage
    rw [unopening (.written count) rfl]
    refine ⟨served.wrote has stage writing (Prod.ext (Reply.written.inj given).symm rfl), ?_, nofun⟩
    exact (has.apart_writeBatch table.session table.statement rows world.target).mono
      fun session different => different table found
  · rw [need] at asked
    obtain ⟨_, rfl⟩ := TableCopy.answer_eq_some asked
    rw [unopening (.closed result) rfl]
    exact ⟨served.ended result, .refl _, nofun⟩

end TableCopy

/-! ### All tables -/

namespace Fleet

/-- The table at a position that was opened in events. -/
def openedAt (position : Nat) (events : List Event) : Option OpenTable :=
  openedBy (repliesTo position events)

/-- **The sessions of tables are apart** after events: they were checked out, and different tables
have different ones; all other sessions committed what they had committed at the start. -/
structure AreApart (ledger : Ledger δ) (origin state : δ) (events : List Event) : Prop where
  isOpen : ∀ {position : Nat} {table : OpenTable}, openedAt position events = some table →
    ledger.isOpen table.session state
  different : ∀ {one other : Nat} {first second : OpenTable}, one ≠ other →
    openedAt one events = some first → openedAt other events = some second →
      first.session ≠ second.session
  rest : ∀ session, (∀ position table, openedAt position events = some table →
    table.session ≠ session) → ledger.kept session state = ledger.kept session origin

/-- Every table of a fleet is served. -/
def IsServed (ledger : Ledger δ) (plan : CopyPlan) (state : δ) (events : List Event)
    (fleet : Fleet) : Prop :=
  ∀ {position : Nat} {slot : Slot TableCopy TableResult},
    fleet.crew.slots[position]? = some slot →
      slot.item.IsServed ledger plan state (openedAt position events)

section Events

variable {events : List Event} {event : Event} {fleet later first : Fleet} {origin : δ}
  {world after start : World σ δ}

theorem openedAt_concat_of_none {position : Nat} (other : event.replyTo? position = none) :
    openedAt position (events ++ [event]) = openedAt position events :=
  congrArg openedBy (repliesTo_concat_of_none other)

theorem openedAt_concat_reply (position : Nat) (events : List Event) (reply : Reply) :
    openedAt position (events ++ [.reply position reply]) =
      (openedAt position events).or reply.table? := by
  rw [openedAt, repliesTo_concat_reply, openedBy_concat]
  rfl

/-- **What happens apart from answers** opens nothing. -/
theorem openedAt_concat_of_silent (silent : ∀ position reply, event ≠ .reply position reply)
    (position : Nat) : openedAt position (events ++ [event]) = openedAt position events := by
  refine openedAt_concat_of_none ?_
  cases event with
  | start | leave | crash => rfl
  | reply place answer => exact absurd rfl (silent place answer)

/-- What happens apart from answers leaves sessions of tables apart from each other. -/
theorem AreApart.silent {state : δ} (apart : AreApart ledger origin state events)
    (silent : ∀ position reply, event ≠ .reply position reply) :
    AreApart ledger origin state (events ++ [event]) := by
  have sameAt : ∀ position, openedAt position (events ++ [event]) = openedAt position events :=
    openedAt_concat_of_silent silent
  refine ⟨fun {position table} opened => ?_, fun {one other first second} distinct => ?_,
    fun session => ?_⟩
  · exact apart.isOpen (sameAt position ▸ opened)
  · rw [sameAt, sameAt]
    exact apart.different distinct
  · simp only [sameAt]
    exact apart.rest session

/-- An answer leaves sessions of tables apart from each other. -/
theorem AreApart.reply {state later : δ} (apart : AreApart ledger origin state events)
    {position : Nat} {reply : Reply}
    (keeps : ledger.Keeps {session | ∀ table, openedAt position events = some table →
      session ≠ table.session} state later)
    (opens : ∀ table, reply.table? = some table → openedAt position events = none ∧
      ¬ ledger.isOpen table.session state ∧ ledger.isOpen table.session later) :
    AreApart ledger origin later (events ++ [.reply position reply]) := by
  have sameAt : ∀ place, place ≠ position →
      openedAt place (events ++ [.reply position reply]) = openedAt place events :=
    fun place other => openedAt_concat_of_none (replyTo?_of_ne (Ne.symm other))
  have own := openedAt_concat_reply position events reply
  -- A table that is open was open before, or is opened by the answer in a new session.
  have cases : ∀ {place : Nat} {table : OpenTable},
      openedAt place (events ++ [.reply position reply]) = some table →
        openedAt place events = some table ∨
          (place = position ∧ ¬ ledger.isOpen table.session state ∧
            ledger.isOpen table.session later) := by
    intro place table found
    by_cases same : place = position
    · subst same
      rw [own] at found
      rcases Option.or_eq_some_iff.mp found with before | ⟨_, now⟩
      · exact .inl before
      · exact .inr ⟨rfl, (opens table now).2⟩
    · exact .inl (sameAt place same ▸ found)
  refine ⟨fun {place table} found => ?_, fun {one other first second} distinct here there => ?_,
    fun session others => ?_⟩
  · rcases cases found with before | ⟨_, _, now⟩
    · exact keeps.isOpen _ (apart.isOpen before)
    · exact now
  · rcases cases here with before | ⟨rfl, new, _⟩ <;>
      rcases cases there with before' | ⟨rfl, new', _⟩
    · exact apart.different distinct before before'
    · exact fun same => new' (same ▸ apart.isOpen before)
    · exact fun same => new (same ▸ apart.isOpen before')
    · exact absurd rfl distinct
  · have still : ∀ place table, openedAt place events = some table → table.session ≠ session := by
      intro place table found
      by_cases same : place = position
      · subst same
        exact others place table (by rw [own, found]; rfl)
      · exact others place table ((sameAt place same).trans found)
    refine (keeps.kept session fun table found => ?_).trans (apart.rest session still)
    exact (still position table found).symm

/-- **Whatever happens** in a run, tables are served and their sessions are apart. -/
theorem Happens.isServed (has : servers.target.HasSessions ledger)
    (happens : Happens servers plan fleet world event later after)
    (served : fleet.IsServed ledger plan world.target events)
    (apart : AreApart ledger origin world.target events) :
    later.IsServed ledger plan after.target (events ++ [event]) ∧
      AreApart ledger origin after.target (events ++ [event]) := by
  obtain ⟨place, old, new, found, step, slots, _⟩ := after_cases happens.after_eq_some
  have cases : ∀ {position : Nat} {slot : Slot TableCopy TableResult},
      later.crew.slots[position]? = some slot →
        (place = position ∧ slot = new) ∨
          (place ≠ position ∧ fleet.crew.slots[position]? = some slot) := by
    intro position slot member
    rw [slots] at member
    by_cases same : place = position
    · subst same
      rw [List.getElem?_set_self (List.getElem?_eq_some_iff.mp found).1] at member
      exact .inl ⟨rfl, (Option.some.inj member).symm⟩
    · exact .inr ⟨same, by rwa [List.getElem?_set_ne same] at member⟩
  -- All but an answer leave the copies and the destination as they are.
  have silently : (∀ position reply, event ≠ .reply position reply) → new.item = old.item →
      after.target = world.target → later.IsServed ledger plan after.target (events ++ [event]) ∧
        AreApart ledger origin after.target (events ++ [event]) := by
    intro silent same still
    rw [still]
    refine ⟨fun {position slot} member => ?_, apart.silent silent⟩
    rw [openedAt_concat_of_silent silent]
    rcases cases member with ⟨rfl, rfl⟩ | ⟨_, member⟩
    · rw [same]
      exact served found
    · exact served member
  cases happens with
  | start | leave | crash =>
    cases step
    exact silently nofun rfl rfl
  | reply copy working asked _ =>
    cases step with
    | reply _ received =>
      cases found.symm.trans (Crew.working?_eq_some_iff.mp working)
      obtain ⟨own, keeps, opens⟩ := (served found).receive has asked received
      refine ⟨fun {position slot} member => ?_, apart.reply keeps opens⟩
      rcases cases member with ⟨rfl, rfl⟩ | ⟨other, member⟩
      · rw [openedAt_concat_reply]
        exact own
      · rw [openedAt_concat_of_none (replyTo?_of_ne other)]
        refine (served member).mono keeps fun table there second here => ?_
        exact apart.different (Ne.symm other) there here

/-- **On a course every table is served**, and the sessions of different tables are apart. -/
theorem Course.isServed {tables : List TableMapping} (has : servers.target.HasSessions ledger)
    (course : Course servers plan (ofMappings plan tables) start events fleet world) :
    fleet.IsServed ledger plan world.target events ∧
      AreApart ledger start.target world.target events := by
  induction course with
  | rest =>
    refine ⟨fun {position slot} found => ?_, nofun, nofun, fun _ _ => rfl⟩
    obtain ⟨copy, inside, rfl⟩ := List.mem_map.mp (List.mem_of_getElem? found)
    obtain ⟨mapping, _, rfl⟩ := List.mem_map.mp inside
    exact ⟨nofun, nofun, fun _ => rfl, nofun, fun _ => rfl, nofun⟩
  | more _ happens ih => exact happens.isServed has ih.1 ih.2

end Events

end Fleet

end SchemaFerry.Run
