/-
**What becomes of a batch.**

A batch is written by calls in turn: it is built, its rows are appended, it is executed and
committed. `Writer.observed` writes down each of these calls with its answer, and changes nothing
else (`BatchCourse.result_writeBatch`).

* `result_observed_makeInTurn` — calls in turn are made up to the first one that fails;
* `batchCourse_writing` — there are four ways in which a batch can go, by the call that fails;
* **`writeBatch_isSettled`** — on a writer that keeps the rows of a batch in an open transaction
  (`Transacts`), a batch that is reported as written was committed as a whole, and after a failure
  before the commit a rollback is the last call and nothing was committed;
* `writeBatch_leaves_open` — after a commit that fails there is no rollback: the rows stay in the
  open transaction.
-/

import SchemaFerry.Proofs.Session
import SchemaFerry.Target.Memory

namespace SchemaFerry.Target

variable {δ : Type}

/-! ### The calls of a batch -/

/-- A call that is made to write a batch. -/
inductive BatchCall where
  | build (statement : String) (count : Nat)
  | append (row : Row)
  | execute (statement : String) (rows : List Row)
  | commit
  | rollback
  deriving Repr, DecidableEq

/-- Makes a call to a writer. -/
def BatchCall.make (writer : Writer δ) : BatchCall → Session δ Unit
  | build statement count => writer.buildBatch statement count
  | append row => writer.appendRow row
  | execute statement rows => writer.execute statement rows
  | commit => writer.commit
  | rollback => writer.rollback

/-- The calls that insert rows. -/
def insertCalls (statement : String) (rows : List Row) : List BatchCall :=
  .build statement rows.length :: rows.map .append ++ [.execute statement rows]

/-- Makes calls in turn, until one fails. -/
def Writer.makeInTurn (writer : Writer δ) : List BatchCall → Session δ Unit
  | [] => pure ()
  | call :: rest => do
    call.make writer
    writer.makeInTurn rest

theorem Writer.makeInTurn_append (writer : Writer δ) (first later : List BatchCall) :
    writer.makeInTurn (first ++ later) = (do
      writer.makeInTurn first
      writer.makeInTurn later) := by
  induction first with
  | nil => exact (pure_bind _ _).symm
  | cons call rest ih =>
    rw [List.cons_append, makeInTurn, ih, makeInTurn, bind_assoc]

/-- Rows are inserted by calls in turn. -/
theorem Writer.insert_eq (writer : Writer δ) (statement : String) (rows : List Row) :
    writer.insert statement rows = writer.makeInTurn (insertCalls statement rows) := by
  have appended : writer.appendRows rows = writer.makeInTurn (rows.map .append) := by
    induction rows with
    | nil => rfl
    | cons row rest ih => rw [appendRows, ih, List.map_cons, makeInTurn, BatchCall.make]
  have executed : writer.makeInTurn [.execute statement rows] = writer.execute statement rows :=
    bind_pure _
  rw [insert, appended, insertCalls, List.cons_append, makeInTurn, makeInTurn_append, executed]
  rfl

/-- Calls in turn move the state along a relation that each of them moves it along. -/
theorem Writer.moves_makeInTurn {writer : Writer δ} {related : δ → δ → Prop}
    (still : ∀ state, related state state)
    (through : ∀ before between after, related before between → related between after →
      related before after) {calls : List BatchCall}
    (each : ∀ call ∈ calls, (call.make writer).Moves related) :
    (writer.makeInTurn calls).Moves related := by
  induction calls with
  | nil => exact Session.moves_pure still ()
  | cons call rest ih =>
    exact (each call List.mem_cons_self).next through
      fun _ => ih fun other member => each other (List.mem_cons_of_mem _ member)

/-- **Writing a batch moves the state along a relation** that all calls move it along. -/
theorem Writer.moves_writeBatch {writer : Writer δ} {related : δ → δ → Prop}
    (still : ∀ state, related state state)
    (through : ∀ before between after, related before between → related between after →
      related before after)
    (each : ∀ call : BatchCall, (call.make writer).Moves related) (statement : String)
    (rows : List Row) : (writer.writeBatch statement rows).Moves related := by
  have inserted : ((writer.insert statement rows).onFault writer.rollback).Moves related := by
    rw [writer.insert_eq]
    exact (moves_makeInTurn still through fun call _ => each call).onFault through (each .rollback)
  rw [writeBatch]
  split
  · exact Session.moves_pure still 0
  · exact inserted.next through fun _ => (each .commit).andThen _

/-! ### Writers that are observed -/

/-- A call and the answer to it. -/
abbrev Answered := BatchCall × Except Fault Unit

/-- A state and the calls of batches that were answered, the first one first. -/
structure Observed (δ : Type) where
  state : δ
  answered : List Answered

namespace Observed

/-- A call of a batch; its answer is written down. -/
def observing (call : BatchCall) (session : Session δ Unit) : Session (Observed δ) Unit :=
  Session.ofFunction fun observed =>
    let (answer, after) := session.result observed.state
    (answer, ⟨after, observed.answered ++ [(call, answer)]⟩)

end Observed

/-- The writer, with the calls of batches written down. -/
def Writer.observed (writer : Writer δ) : Writer (Observed δ) where
  buildBatch statement count :=
    Observed.observing (.build statement count) (writer.buildBatch statement count)
  appendRow row := Observed.observing (.append row) (writer.appendRow row)
  execute statement rows :=
    Observed.observing (.execute statement rows) (writer.execute statement rows)
  commit := Observed.observing .commit writer.commit
  rollback := Observed.observing .rollback writer.rollback

theorem BatchCall.make_observed (writer : Writer δ) (call : BatchCall) :
    call.make writer.observed = Observed.observing call (call.make writer) := by
  cases call <;> rfl

/-- Calls that were made in turn: all of them are answered well, or all before the first one that
fails, after which none is made. -/
inductive MadeInTurn (calls : List BatchCall) : List Answered → Except Fault Unit → Prop where
  | all : MadeInTurn calls (calls.map fun call => (call, .ok ())) (.ok ())
  | upTo (done : List BatchCall) {left : List BatchCall} {call : BatchCall} {fault : Fault}
      (split : calls = done ++ call :: left) :
      MadeInTurn calls (done.map (fun call => (call, .ok ())) ++ [(call, .error fault)])
        (.error fault)

/-- One more call in front of others. -/
theorem MadeInTurn.cons {calls : List BatchCall} {answered : List Answered}
    {result : Except Fault Unit} (call : BatchCall) (made : MadeInTurn calls answered result) :
    MadeInTurn (call :: calls) ((call, .ok ()) :: answered) result := by
  cases made with
  | all => exact .all
  | upTo done split => exact .upTo (call :: done) (by rw [split, List.cons_append])

/-- Only calls of a list are made in turn. -/
theorem MadeInTurn.mem {calls : List BatchCall} {answered : List Answered}
    {result : Except Fault Unit} (made : MadeInTurn calls answered result) {entry : Answered}
    (member : entry ∈ answered) : entry.1 ∈ calls := by
  cases made with
  | all =>
    obtain ⟨call, listed, rfl⟩ := List.mem_map.mp member
    exact listed
  | upTo done split =>
    rw [split]
    rcases List.mem_append.mp member with early | last
    · obtain ⟨call, listed, rfl⟩ := List.mem_map.mp early
      exact List.mem_append_left _ listed
    · rw [List.mem_singleton.mp last]
      exact List.mem_append_right _ List.mem_cons_self

/-- **An observed writer answers calls in turn as the writer does**, and they are written down. -/
theorem result_observed_makeInTurn (writer : Writer δ) (calls : List BatchCall) (state : δ)
    (before : List Answered) :
    ∃ answered, MadeInTurn calls answered ((writer.makeInTurn calls).result state).1 ∧
      (writer.observed.makeInTurn calls).result ⟨state, before⟩ =
        (((writer.makeInTurn calls).result state).1,
          ⟨((writer.makeInTurn calls).result state).2, before ++ answered⟩) := by
  induction calls generalizing state before with
  | nil => exact ⟨[], .all, by rw [List.append_nil]; rfl⟩
  | cons call rest ih =>
    rw [Writer.makeInTurn, Writer.makeInTurn, BatchCall.make_observed, Session.result_bind,
      Session.result_bind, Observed.observing, Session.result_ofFunction]
    rcases (call.make writer).result state with ⟨answer, after⟩
    cases answer with
    | error fault => exact ⟨[(call, .error fault)], .upTo [] rfl, rfl⟩
    | ok _ =>
      obtain ⟨answered, made, same⟩ := ih after (before ++ [(call, .ok ())])
      rw [List.append_assoc] at same
      exact ⟨(call, .ok ()) :: answered, made.cons call, same⟩

/-! ### The course of a batch -/

/-- Writes a batch to an observed writer. -/
def Writer.writing (writer : Writer δ) (statement : String) (rows : List Row) (state : δ) :
    Except Fault Nat × Observed δ :=
  (writer.observed.writeBatch statement rows).result ⟨state, []⟩

/-- After the rows are inserted, the batch is committed. -/
theorem Writer.writeBatch_of_insert {writer : Writer δ} {statement : String} {rows : List Row}
    {state between : δ} (present : rows ≠ [])
    (inserted : (writer.insert statement rows).result state = (.ok (), between)) :
    (writer.writeBatch statement rows).result state =
      ((writer.commit.result between).1.map fun _ => rows.length,
        (writer.commit.result between).2) := by
  have rest : rows.isEmpty = false := List.isEmpty_eq_false_iff.mpr present
  have kept : ((writer.insert statement rows).onFault writer.rollback).result state =
      (.ok (), between) := by
    rw [Session.onFault, Session.result_ofFunction, inserted]
  simp only [writeBatch, rest, Bool.false_eq_true, if_false]
  rw [Session.result_bind, kept]
  dsimp only
  rw [Session.result_bind]
  rcases writer.commit.result between with ⟨committed, after⟩
  cases committed <;> rfl

/-- **The course of a batch**: its result, the state after it, and its calls with their answers.

* `nothing` — without rows there is no call;
* `committed` — the rows are inserted and committed;
* `rolledBack` — a call to insert the rows fails, and a rollback is the last call; the fault is that
  of the call that failed, whatever is answered to the rollback;
* `uncommitted` — the rows are inserted, the commit fails, and there is no more call. -/
inductive Writer.BatchCourse (writer : Writer δ) (statement : String) (rows : List Row)
    (state : δ) : Except Fault Nat → δ → List Answered → Prop where
  | nothing (empty : rows = []) : BatchCourse writer statement rows state (.ok 0) state []
  | committed {between after : δ} {answered : List Answered} (present : rows ≠ [])
      (inserted : (writer.insert statement rows).result state = (.ok (), between))
      (made : MadeInTurn (insertCalls statement rows) answered (.ok ()))
      (committed : writer.commit.result between = (.ok (), after)) :
      BatchCourse writer statement rows state (.ok rows.length) after
        (answered ++ [(.commit, .ok ())])
  | rolledBack {between after : δ} {fault : Fault} {answered : List Answered}
      {answer : Except Fault Unit} (present : rows ≠ [])
      (failed : (writer.insert statement rows).result state = (.error fault, between))
      (made : MadeInTurn (insertCalls statement rows) answered (.error fault))
      (rolledBack : writer.rollback.result between = (answer, after)) :
      BatchCourse writer statement rows state (.error fault) after
        (answered ++ [(.rollback, answer)])
  | uncommitted {between after : δ} {fault : Fault} {answered : List Answered} (present : rows ≠ [])
      (inserted : (writer.insert statement rows).result state = (.ok (), between))
      (made : MadeInTurn (insertCalls statement rows) answered (.ok ()))
      (failed : writer.commit.result between = (.error fault, after)) :
      BatchCourse writer statement rows state (.error fault) after
        (answered ++ [(.commit, .error fault)])

/-- **Every batch takes its course.** -/
theorem batchCourse_writing (writer : Writer δ) (statement : String) (rows : List Row)
    (state : δ) :
    writer.BatchCourse statement rows state (writer.writing statement rows state).1
      (writer.writing statement rows state).2.state
      (writer.writing statement rows state).2.answered := by
  by_cases present : rows = []
  · subst present
    exact .nothing rfl
  obtain ⟨answered, made, same⟩ :=
    result_observed_makeInTurn writer (insertCalls statement rows) state []
  rw [← Writer.insert_eq, ← Writer.insert_eq, List.nil_append] at same
  rw [← Writer.insert_eq] at made
  rcases shape : (writer.insert statement rows).result state with ⟨inserted, between⟩
  rw [shape] at made same
  cases inserted with
  | error fault =>
    rw [Writer.writing, Writer.writeBatch_fault_of_insert present same]
    exact .rolledBack present shape made rfl
  | ok _ =>
    rw [Writer.writing, Writer.writeBatch_of_insert present same]
    rcases last : writer.commit.result between with ⟨committed, after⟩
    have observed : writer.observed.commit.result ⟨between, answered⟩ =
        (committed, ⟨after, answered ++ [(.commit, committed)]⟩) := by
      rw [Writer.observed, Observed.observing, Session.result_ofFunction, last]
    rw [observed]
    cases committed with
    | error fault => exact .uncommitted present shape made last
    | ok _ => exact .committed present shape made last

/-- A batch that takes a course ends as it does without being observed. -/
theorem Writer.BatchCourse.result_writeBatch {writer : Writer δ} {statement : String}
    {rows : List Row} {state after : δ} {result : Except Fault Nat} {answered : List Answered}
    (course : writer.BatchCourse statement rows state result after answered) :
    (writer.writeBatch statement rows).result state = (result, after) := by
  cases course with
  | nothing empty =>
    subst empty
    rfl
  | committed present inserted _ committed =>
    rw [writeBatch_of_insert present inserted, committed]
    rfl
  | rolledBack present failed _ rolledBack =>
    rw [writeBatch_fault_of_insert present failed, rolledBack]
  | uncommitted present inserted _ failed =>
    rw [writeBatch_of_insert present inserted, failed]
    rfl

theorem commit_not_mem_insertCalls (statement : String) (rows : List Row) :
    .commit ∉ insertCalls statement rows := by
  simp [insertCalls]

theorem rollback_not_mem_insertCalls (statement : String) (rows : List Row) :
    .rollback ∉ insertCalls statement rows := by
  simp [insertCalls]

/-- A call that is not in a list is not made in turn with it, so that it is the one made last. -/
theorem MadeInTurn.mem_concat_iff {calls : List BatchCall} {answered : List Answered}
    {result : Except Fault Unit} (made : MadeInTurn calls answered result) {call : BatchCall}
    (other : call ∉ calls) (answer : Except Fault Unit) (last : Answered) :
    (call, answer) ∈ answered ++ [last] ↔ (call, answer) = last := by
  rw [List.mem_append, List.mem_singleton, or_iff_right]
  exact fun early => other (made.mem early)

/-- **A rollback is called exactly in a batch that fails, unless the commit does.** -/
theorem Writer.BatchCourse.rolledBack_iff {writer : Writer δ} {statement : String}
    {rows : List Row} {state after : δ} {result : Except Fault Nat} {answered : List Answered}
    (course : writer.BatchCourse statement rows state result after answered) :
    (∃ answer, (.rollback, answer) ∈ answered) ↔
      ∃ fault, result = .error fault ∧ (.commit, .error fault) ∉ answered := by
  have commit := commit_not_mem_insertCalls statement rows
  have rollback := rollback_not_mem_insertCalls statement rows
  cases course with
  | nothing _ => simp
  | committed _ _ made _ => simp [made.mem_concat_iff rollback]
  | rolledBack _ _ made _ => simp [made.mem_concat_iff rollback, made.mem_concat_iff commit]
  | uncommitted _ _ made _ => simp [made.mem_concat_iff rollback, made.mem_concat_iff commit]

/-! ### Writers with transactions -/

/-- **A writer with transactions.** Rows wait in an open transaction until they are committed, or
are dropped by a rollback.

* `keeps` — only a commit changes what was committed;
* `inserts` — rows wait after a batch of them was built, filled and executed;
* `commits`, `rollsBack` — nothing waits after a commit or a rollback, and after a commit all that
  waited was committed. -/
structure Writer.Transacts (writer : Writer δ) (waiting kept : δ → List Insertion) : Prop where
  keeps : ∀ call, call ≠ BatchCall.commit →
    (call.make writer).Moves fun before after => kept after = kept before
  inserts : ∀ {statement : String} {rows : List Row} {before after : δ},
    (writer.insert statement rows).result before = (.ok (), after) →
      waiting after = waiting before ++ [(statement, rows)]
  commits : ∀ {before after : δ}, writer.commit.result before = (.ok (), after) →
    waiting after = [] ∧ kept after = kept before ++ waiting before
  rollsBack : ∀ {before after : δ}, writer.rollback.result before = (.ok (), after) →
    waiting after = []

/-- Inserting rows leaves what was committed as it is, whatever happens. -/
theorem Writer.Transacts.kept_of_insert {writer : Writer δ} {waiting kept : δ → List Insertion}
    (transacts : writer.Transacts waiting kept) {statement : String} {rows : List Row}
    {before after : δ} {answer : Except Fault Unit}
    (inserted : (writer.insert statement rows).result before = (answer, after)) :
    kept after = kept before := by
  have keeps : (writer.makeInTurn (insertCalls statement rows)).Moves fun before after =>
      kept after = kept before := by
    refine Writer.moves_makeInTurn (fun _ => ?_) (fun _ _ _ one later => ?_) fun call member => ?_
    · rfl
    · exact later.trans one
    · exact transacts.keeps call fun commit =>
        commit_not_mem_insertCalls statement rows (commit ▸ member)
  rw [← writer.insert_eq] at keeps
  exact keeps.along inserted

section Course

variable {writer : Writer δ} {waiting kept : δ → List Insertion} {statement : String} {rows : List Row}
  {state after : δ} {result : Except Fault Nat} {answered : List Answered}

theorem Writer.BatchCourse.nothing_happens
    (course : writer.BatchCourse statement rows state result after answered) (empty : rows = []) :
    result = .ok 0 ∧ after = state ∧ answered = [] := by
  cases course with
  | nothing _ => exact ⟨rfl, rfl, rfl⟩
  | committed present _ _ _ | rolledBack present _ _ _ | uncommitted present _ _ _ =>
    exact absurd empty present

/-- What is reported as written was committed, with all that waited before. -/
theorem Writer.BatchCourse.whole (transacts : writer.Transacts waiting kept)
    (course : writer.BatchCourse statement rows state result after answered) {count : Nat}
    (written : result = .ok count) :
    count = rows.length ∧ (rows ≠ [] →
      kept after = kept state ++ waiting state ++ [(statement, rows)] ∧ waiting after = []) := by
  cases course with
  | nothing empty =>
    cases written
    exact ⟨by rw [empty]; rfl, fun present => absurd empty present⟩
  | committed _ inserted _ committed =>
    cases written
    obtain ⟨dropped, all⟩ := transacts.commits committed
    refine ⟨rfl, fun _ => ⟨?_, dropped⟩⟩
    rw [all, transacts.kept_of_insert inserted, transacts.inserts inserted, List.append_assoc]
  | rolledBack _ _ _ _ | uncommitted _ _ _ _ => cases written

/-- Of what is rolled back nothing was committed, and nothing waits if the rollback succeeds. -/
theorem Writer.BatchCourse.undone (transacts : writer.Transacts waiting kept)
    (course : writer.BatchCourse statement rows state result after answered)
    {answer : Except Fault Unit} (member : (.rollback, answer) ∈ answered) :
    kept after = kept state ∧ (answer = .ok () → waiting after = []) := by
  have other := rollback_not_mem_insertCalls statement rows
  cases course with
  | nothing _ => cases member
  | committed _ _ made _ | uncommitted _ _ made _ =>
    cases (made.mem_concat_iff other _ _).mp member
  | @rolledBack between _ _ _ _ _ failed made rolledBack =>
    cases (made.mem_concat_iff other _ _).mp member
    have still : kept (writer.rollback.result between).2 = kept between :=
      transacts.keeps .rollback (by rintro ⟨⟩) between
    rw [rolledBack] at still
    refine ⟨still.trans (transacts.kept_of_insert failed), ?_⟩
    rintro rfl
    exact transacts.rollsBack rolledBack

/-- When a commit fails, all rows wait, and nothing is done afterwards. -/
theorem Writer.BatchCourse.uncommitted_waits (transacts : writer.Transacts waiting kept)
    (course : writer.BatchCourse statement rows state result after answered) {fault : Fault}
    (member : (.commit, .error fault) ∈ answered) :
    result = .error fault ∧ ∃ between, writer.commit.result between = (.error fault, after) ∧
      kept between = kept state ∧ waiting between = waiting state ++ [(statement, rows)] := by
  have other := commit_not_mem_insertCalls statement rows
  cases course with
  | nothing _ => cases member
  | committed _ _ made _ | rolledBack _ _ made _ =>
    cases (made.mem_concat_iff other _ _).mp member
  | uncommitted _ inserted made failed =>
    cases (made.mem_concat_iff other _ _).mp member
    exact ⟨rfl, _, failed, transacts.kept_of_insert inserted, transacts.inserts inserted⟩

end Course

/-- **What becomes of a batch**, by its result and the calls that were made.

* `same` — the batch ends as it does without being observed;
* `course` — it takes a course;
* `nothing` — a batch without rows changes nothing, and there is no call;
* `whole` — of a batch that is reported as written all rows are counted and committed, and none
  waits;
* `rolledBack_iff` — a batch is rolled back exactly if it fails, unless its commit does;
* `undone` — of a batch that is rolled back nothing was committed, and nothing waits unless the
  rollback failed too;
* `uncommitted` — of a batch whose commit fails the state is the one in which the commit left it,
  when all of its rows waited. -/
structure Writer.Settles (writer : Writer δ) (waiting kept : δ → List Insertion) (statement : String)
    (rows : List Row) (state : δ) (result : Except Fault Nat) (after : δ)
    (answered : List Answered) : Prop where
  same : (writer.writeBatch statement rows).result state = (result, after)
  course : writer.BatchCourse statement rows state result after answered
  nothing : rows = [] → result = .ok 0 ∧ after = state ∧ answered = []
  whole : ∀ count, result = .ok count → count = rows.length ∧
    (rows ≠ [] → kept after = kept state ++ waiting state ++ [(statement, rows)] ∧ waiting after = [])
  rolledBack_iff : (∃ answer, (.rollback, answer) ∈ answered) ↔
    ∃ fault, result = .error fault ∧ (.commit, .error fault) ∉ answered
  undone : ∀ answer, (.rollback, answer) ∈ answered →
    kept after = kept state ∧ (answer = .ok () → waiting after = [])
  uncommitted : ∀ fault, (.commit, .error fault) ∈ answered → result = .error fault ∧
    ∃ between, writer.commit.result between = (.error fault, after) ∧
      kept between = kept state ∧ waiting between = waiting state ++ [(statement, rows)]

/-- **Every batch is settled as its calls were answered.** -/
theorem writeBatch_isSettled {writer : Writer δ} {waiting kept : δ → List Insertion}
    (transacts : writer.Transacts waiting kept) (statement : String) (rows : List Row)
    (state : δ) :
    writer.Settles waiting kept statement rows state (writer.writing statement rows state).1
      (writer.writing statement rows state).2.state
      (writer.writing statement rows state).2.answered :=
  have course := batchCourse_writing writer statement rows state
  { same := course.result_writeBatch
    course
    nothing := course.nothing_happens
    whole := fun _ => course.whole transacts
    rolledBack_iff := course.rolledBack_iff
    undone := fun _ => course.undone transacts
    uncommitted := fun _ => course.uncommitted_waits transacts }

/-! ### The destination in memory -/

namespace Memory

/-- What waits for the commit of a session, the first insertion first. -/
def waiting (session : Nat) (memory : Memory) : List Insertion :=
  ((memory.leases[session]?).map fun lease => lease.pending.reverse).getD []

/-- What a session committed, the first insertion first. -/
def kept (session : Nat) (memory : Memory) : List Insertion :=
  ((memory.leases[session]?).map fun lease => lease.committed.reverse).getD []

/-- A call whose answer is about something that noting the call leaves as it is. -/
theorem serve_moves {α : Type} {related : Memory → Memory → Prop} (call : Call)
    {answer : Memory → Except Fault α × Memory}
    (noted : ∀ memory calls failures, related memory { memory with calls, failures })
    (answered : ∀ memory calls failures,
      related memory (answer { memory with calls, failures }).2) :
    (serve call answer).Moves related := by
  intro memory
  obtain ⟨failures, ⟨fault, failed⟩ | given⟩ := serve_cases call answer memory
  · rw [failed]
    exact noted memory _ failures
  · rw [given]
    exact answered memory _ failures

/-- A call that succeeds was answered, after it was noted. -/
theorem answered_of_serve {α : Type} {call : Call} {answer : Memory → Except Fault α × Memory}
    {memory after : Memory} {value : α}
    (succeeded : (serve call answer).result memory = (.ok value, after)) :
    ∃ failures, answer { memory with calls := call :: memory.calls, failures } =
      (.ok value, after) := by
  obtain ⟨failures, ⟨fault, failed⟩ | answered⟩ := serve_cases call answer memory
  · cases failed.symm.trans succeeded
  · exact ⟨failures, answered.symm.trans succeeded⟩

/-- A change of a session that leaves what it committed does so for the destination. -/
theorem kept_inSession (session : Nat) {change : Lease → Lease}
    (same : ∀ lease, (change lease).committed = lease.committed) (memory : Memory) :
    kept session (inSession session change memory).2 = kept session memory := by
  rcases inSession_cases session change memory with ⟨lease, found, changed⟩ | ⟨fault, refused⟩
  · obtain ⟨within, _⟩ := List.getElem?_eq_some_iff.mp found
    simp only [changed, kept, List.getElem?_set_self within, found, Option.map_some, same]
  · rw [refused]

/-- A change of a session that succeeds. -/
theorem inSession_eq_ok {session : Nat} {change : Lease → Lease} {memory after : Memory}
    (changed : inSession session change memory = (.ok (), after)) :
    ∃ lease, memory.leases[session]? = some lease ∧ after.leases[session]? = some (change lease) := by
  rcases inSession_cases session change memory with ⟨lease, found, same⟩ | ⟨fault, refused⟩
  · cases same.symm.trans changed
    obtain ⟨within, _⟩ := List.getElem?_eq_some_iff.mp found
    exact ⟨lease, found, List.getElem?_set_self within⟩
  · cases refused.symm.trans changed

/-- **The sessions of a destination in memory have transactions.** -/
theorem transacts (session : Nat) : (writer session).Transacts (waiting session) (kept session) where
  keeps call other := by
    have still : ∀ {change : Lease → Lease}, (∀ lease, (change lease).committed = lease.committed) →
        ∀ (memory : Memory) calls failures,
          kept session (inSession session change { memory with calls, failures }).2 =
            kept session memory :=
      fun same memory calls failures => kept_inSession session same { memory with calls, failures }
    cases call with
    | commit => exact absurd rfl other
    | append _ => exact fun _ => rfl
    | build _ count => exact serve_moves _ (fun _ _ _ => rfl) fun _ _ _ => rfl
    | execute statement rows =>
      exact serve_moves _ (fun _ _ _ => rfl) (still fun _ => rfl)
    | rollback => exact serve_moves _ (fun _ _ _ => rfl) (still fun _ => rfl)
  inserts {statement rows before after} inserted := by
    rw [insert_writer, Session.result_bind_eq_ok_iff] at inserted
    obtain ⟨_, between, built, executed⟩ := inserted
    obtain ⟨_, same⟩ := answered_of_serve built
    cases same
    obtain ⟨_, changed⟩ := answered_of_serve executed
    obtain ⟨lease, found, later⟩ := inSession_eq_ok changed
    change before.leases[session]? = _ at found
    simp only [waiting, later, found, Option.map_some, Option.getD_some, Lease.insert,
      List.reverse_cons]
  commits {before after} committed := by
    obtain ⟨_, changed⟩ := answered_of_serve committed
    obtain ⟨lease, found, later⟩ := inSession_eq_ok changed
    change before.leases[session]? = _ at found
    simp only [waiting, kept, later, found, Option.map_some, Option.getD_some, Lease.commit,
      List.reverse_append]
    exact ⟨rfl, trivial⟩
  rollsBack {before after} dropped := by
    obtain ⟨_, changed⟩ := answered_of_serve dropped
    obtain ⟨lease, found, later⟩ := inSession_eq_ok changed
    simp only [waiting, later, Option.map_some, Option.getD_some, Lease.rollback]
    rfl

/-- A destination in memory with a session and nothing else in it, with failures planned. -/
def withFailures (failures : List PlannedFailure) : Memory :=
  ⟨[], [], [], [], [], [⟨[], []⟩], failures, []⟩

end Memory

/-- Two rows are rolled back when the first of them is there already. -/
theorem writeBatch_isSettled_refused :
    let statement := "INSERT INTO APP.USERS (ID) VALUES (:1)"
    let rows : List Row := [[.integer (some 1)], [.integer (some 2)]]
    let writer := Memory.writer 0
    let state := Memory.withFailures [⟨"INSERT", 1, "ORA-00001: unique constraint violated", 0⟩]
    writer.Transacts (Memory.waiting 0) (Memory.kept 0) ∧
      writer.Settles (Memory.waiting 0) (Memory.kept 0) statement rows state
        (writer.writing statement rows state).1
        (writer.writing statement rows state).2.state
        (writer.writing statement rows state).2.answered ∧
      (writer.writing statement rows state).2.answered.map Prod.fst =
        insertCalls statement rows ++ [.rollback] :=
  ⟨Memory.transacts 0, writeBatch_isSettled (Memory.transacts 0) _ _ _, by decide⟩

/-- **A commit that fails leaves a batch open**: there is no rollback, and its rows wait. -/
theorem writeBatch_leaves_open :
    let statement := "INSERT INTO APP.USERS (ID) VALUES (:1)"
    let rows : List Row := [[.integer (some 1)]]
    let message := "ORA-01013: user requested cancel of current operation"
    let state := Memory.withFailures [⟨"COMMIT", 1, message, 0⟩]
    ∃ after answered, (Memory.writer 0).writing statement rows state =
        (.error (.target message), ⟨after, answered⟩) ∧
      answered.map Prod.fst = insertCalls statement rows ++ [.commit] ∧
      Memory.waiting 0 after = [(statement, rows)] :=
  ⟨_, _, rfl, by decide, by decide⟩

end SchemaFerry.Target
