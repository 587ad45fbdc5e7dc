/-
**The lock of the source.**

A source keeps a log of what was done to the lock under a key (`Server.KeepsLock`): each try to take
it, with whether it was given, and that it was given back. It is given only while it is not held. It
is given back also when the call for that fails, with the connection that holds it. No other call
that a run makes has to do with it.

* `acquireLock_cases` — what asking for the lock does to the log, by its answer.
-/

import SchemaFerry.Proofs.Session
import SchemaFerry.Source.Memory

namespace SchemaFerry.Source

variable {σ : Type} {server : Server σ}

/-- All calls of a run but those about the lock move the state along a relation. -/
structure Server.MovesBesidesLock (server : Server σ) (related : σ → σ → Prop) : Prop where
  still : ∀ state, related state state
  through : ∀ before between after, related before between → related between after →
    related before after
  connect : ∀ pool, (server.connect pool).Moves related
  probe : server.probe.Moves related
  listTables : ∀ schema, (server.listTables schema).Moves related
  countRows : ∀ text, (server.countRows text).Moves related
  beginReading : server.beginReading.Moves related
  limitTime : ∀ transaction text, (server.limitTime transaction text).Moves related
  prepare : ∀ transaction text, (server.prepare transaction text).Moves related
  openRows : ∀ transaction text, (server.openRows transaction text).Moves related
  fetch : ∀ transaction count, (server.fetch transaction count).Moves related
  endReading : ∀ transaction, (server.endReading transaction).Moves related

/-- Any source moves along the relation that always holds. -/
theorem Server.movesBesidesLock_true (server : Server σ) :
    server.MovesBesidesLock fun _ _ => True := by
  constructor <;> intros <;> first | trivial | exact Session.moves_true _

/-- **A source keeps a lock under a key**, and a log of it with the last call first.

* `granted` — the lock is given only while it is not held;
* `missed`, `failed` — a try that is answered is in the log, and one that fails may be;
* `givesBack` — after it was given back it is not held, whatever the answer is;
* `besides` — no other call of a run has to do with it. -/
structure Server.KeepsLock (server : Server σ) (key : Int) (log : σ → List LockCall) : Prop where
  granted : ∀ {state after : σ}, (server.tryLock key).result state = (.ok true, after) →
    isHeld (log state) = false ∧ log after = .tried true :: log state
  missed : ∀ {state after : σ}, (server.tryLock key).result state = (.ok false, after) →
    log after = .tried false :: log state
  failed : ∀ {state after : σ} {fault : Fault},
    (server.tryLock key).result state = (.error fault, after) →
      log after = log state ∨ log after = .tried false :: log state
  givesBack : ∀ state, log ((server.unlock key).result state).2 = .gaveBack :: log state
  besides : server.MovesBesidesLock fun before after => log after = log before

namespace Server.MovesBesidesLock

variable {related : σ → σ → Prop}

theorem checkOut (besides : server.MovesBesidesLock related) (pool : SourcePool)
    (context : String) : (server.checkOut pool context).Moves related := by
  unfold Server.checkOut
  refine Session.Moves.mapFault ?_ _
  split
  · exact besides.connect pool
  · exact besides.still

theorem openPool (besides : server.MovesBesidesLock related) (connection : Connection)
    (size : Nat) : (server.openPool connection size).Moves related :=
  Session.Moves.next besides.still besides.through fun pool =>
    (besides.checkOut pool _).next besides.through fun _ => besides.probe

theorem discover (besides : server.MovesBesidesLock related) (schema : String)
    (settings : CopySettings) :
    (Copy.discover server.catalog schema settings).Moves related :=
  (besides.listTables schema).andThen _

theorem countTables (besides : server.MovesBesidesLock related) (schema : String) (total : Int)
    (names : List String) :
    Session.Moves (ExceptT.lift (server.catalog.countRows schema total names)) related := by
  intro state
  show related state ((server.catalog.countRows schema total names).run state).2
  induction names generalizing total state with
  | nil => exact besides.still state
  | cons name rest ih =>
    have counted := besides.countRows (Copy.countQuery schema name) state
    have attempted : (server.catalog.rowCount schema name).attempt.run state =
      (server.countRows (Copy.countQuery schema name)).result state := rfl
    rw [Schema.Catalog.countRows, StateT.run_bind, attempted]
    rcases shape : (server.countRows (Copy.countQuery schema name)).result state with
      ⟨fault | count, between⟩
    · rw [shape] at counted
      exact counted
    · rw [shape] at counted
      exact besides.through _ _ _ counted (ih (total + count) between)

theorem rows (besides : server.MovesBesidesLock related) (transaction : Nat)
    (columns : List Copy.WireColumn) (count : Nat) :
    ((server.rows transaction columns).fetch count).Moves related :=
  (besides.fetch transaction _).next besides.through fun _ => besides.still

end Server.MovesBesidesLock

/-- **Asking for the lock** is a try that is given, a try that is not, or a fault. -/
theorem acquireLock_cases {key : Int} {log : σ → List LockCall} (keeps : server.KeepsLock key log)
    {connection : Connection} {state after : σ} {answer : Except Fault Bool}
    (asked : (server.acquireLock connection key).result state = (answer, after)) :
    (answer = .ok true ∧ isHeld (log state) = false ∧ log after = .tried true :: log state) ∨
      (answer = .ok false ∧ log after = .tried false :: log state) ∨
      ∃ fault, answer = .error fault ∧
        (log after = log state ∨ log after = .tried false :: log state) := by
  unfold Server.acquireLock at asked
  rw [Session.result_bind] at asked
  cases pooled : connection.sourcePool 1 with
  | error fault =>
    simp only [pooled, Session.ofExcept, Session.result_ofFunction] at asked
    cases asked
    exact .inr (.inr ⟨fault, rfl, .inl rfl⟩)
  | ok pool =>
    simp only [pooled, Session.ofExcept, Session.result_ofFunction, Session.result_bind] at asked
    have kept := keeps.besides.checkOut pool "getting connection for migration lock" state
    rcases connected : (server.checkOut pool "getting connection for migration lock").result state
      with ⟨fault | _, between⟩
    · rw [connected] at asked kept
      cases asked
      exact .inr (.inr ⟨fault, rfl, .inl kept⟩)
    · rw [connected] at asked kept
      dsimp only at asked kept
      rw [← kept]
      match answer with
      | .error fault => exact .inr (.inr ⟨fault, rfl, keeps.failed asked⟩)
      | .ok true => exact .inl ⟨rfl, keeps.granted asked⟩
      | .ok false => exact .inr (.inl ⟨rfl, keeps.missed asked⟩)

/-! ### A source in memory -/

namespace Memory

/-- A call that does nothing to the lock. -/
def LeavesLock {α : Type} (call : Session Memory α) : Prop :=
  call.Moves fun before after => after.locks = before.locks

section Calls

variable {α β : Type}

theorem LeavesLock.next {call : Session Memory α} {more : α → Session Memory β}
    (one : LeavesLock call) (others : ∀ value, LeavesLock (more value)) :
    LeavesLock (call >>= more) :=
  Session.Moves.next one (fun _ _ _ first later => later.trans first) others

/-- A call fails or is answered; that it was noted does nothing to the lock. -/
theorem serve_cases (call : Call) (answer : Memory → Except Fault α × Memory) (memory : Memory) :
    ∃ noted : Memory, noted.locks = memory.locks ∧
      ((∃ fault, (serve call answer).result memory = (.error fault, noted)) ∨
        (serve call answer).result memory = answer noted) := by
  refine ⟨(noting call memory).2, rfl, ?_⟩
  rw [serve, Session.result_ofFunction]
  rcases noting call memory with ⟨_ | message, noted⟩
  · exact .inr rfl
  · exact .inl ⟨_, rfl⟩

theorem leavesLock_serve (call : Call) {answer : Memory → Except Fault α × Memory}
    (keeps : ∀ memory, (answer memory).2.locks = memory.locks) : LeavesLock (serve call answer) := by
  intro memory
  obtain ⟨noted, same, ⟨_, made⟩ | made⟩ := serve_cases call answer memory
  · rw [made]
    exact same
  · rw [made]
    exact (keeps noted).trans same

theorem leavesLock_acknowledge (call : Call) : LeavesLock (acknowledge call) :=
  leavesLock_serve call fun _ => rfl

theorem leavesLock_ask (label : String) (run : Call) (answer : Memory → Except Fault α) :
    LeavesLock (ask label run answer) :=
  (leavesLock_acknowledge _).next fun _ => leavesLock_serve run fun _ => rfl

theorem leavesLock_openRows (transaction : Nat) (text : String) :
    LeavesLock (openRows transaction text) := by
  refine (leavesLock_acknowledge _).next fun _ memory => ?_
  rw [Session.result_ofFunction]
  split <;> rfl

theorem leavesLock_fetch (transaction count : Nat) : LeavesLock (fetch transaction count) :=
  leavesLock_serve _ fun memory => by split <;> rfl

end Calls

theorem movesBesidesLock :
    Memory.server.MovesBesidesLock fun before after => after.locks = before.locks where
  still _ := rfl
  through _ _ _ first later := later.trans first
  connect pool := by
    dsimp only [Memory.server]
    split
    · exact (leavesLock_acknowledge _).next fun _ => leavesLock_acknowledge _
    · exact leavesLock_acknowledge _
  probe := leavesLock_acknowledge _
  listTables _ := leavesLock_ask _ _ _
  countRows _ := leavesLock_ask _ _ _
  beginReading := leavesLock_serve _ fun _ => rfl
  limitTime _ _ := leavesLock_acknowledge _
  prepare _ _ := leavesLock_ask _ _ _
  openRows := leavesLock_openRows
  fetch := leavesLock_fetch
  endReading _ := leavesLock_acknowledge _

/-- What a try to take the lock does, by its answer. -/
theorem tryLock_cases {key : Int} {memory after : Memory} {answer : Except Fault Bool}
    (tried : (tryLock key).result memory = (answer, after)) :
    (∃ granted, answer = .ok granted ∧ (granted = true → isHeld memory.locks = false) ∧
        after.locks = .tried granted :: memory.locks) ∨
      ∃ fault, answer = .error fault ∧ after.locks = memory.locks := by
  have prepared := leavesLock_acknowledge (.prepare "lock") memory
  rw [tryLock, Session.result_bind] at tried
  rcases shape : (acknowledge (.prepare "lock")).result memory with ⟨fault | _, between⟩
  · rw [shape] at tried prepared
    cases tried
    exact .inr ⟨fault, rfl, prepared⟩
  · rw [shape] at tried prepared
    dsimp only at tried prepared
    obtain ⟨noted, same, ⟨fault, made⟩ | made⟩ := serve_cases (.lock key) _ between
    · cases made.symm.trans tried
      exact .inr ⟨fault, rfl, same.trans prepared⟩
    · cases made.symm.trans tried
      rw [← prepared, ← same]
      refine .inl ⟨_, rfl, fun granted => ?_, rfl⟩
      simpa using (Bool.and_eq_true_iff.mp granted).2

/-- **A source in memory keeps a lock**, whatever the key is. -/
theorem keepsLock (key : Int) : Memory.server.KeepsLock key Memory.locks where
  granted tried := by
    rcases tryLock_cases tried with ⟨_, ⟨⟩, free, same⟩ | ⟨_, ⟨⟩, _⟩
    exact ⟨free rfl, same⟩
  missed tried := by
    rcases tryLock_cases tried with ⟨_, ⟨⟩, _, same⟩ | ⟨_, ⟨⟩, _⟩
    exact same
  failed tried := by
    rcases tryLock_cases tried with ⟨_, ⟨⟩, _⟩ | ⟨_, _, same⟩
    exact .inl same
  givesBack memory := by
    have asked := leavesLock_ask "unlock" (.unlock key) (fun memory => .ok (isHeld memory.locks)) memory
    exact congrArg (LockCall.gaveBack :: ·) asked
  besides := movesBesidesLock

end Memory

end SchemaFerry.Source
