/-
**Sessions of the destination.**

Work on the destination is done in sessions that are checked out of a pool. A ledger says which of
them were checked out, and what waits for the commit of each one and what each one committed. On a
server with sessions (`HasSessions`) one that is checked out was not before, and its ledger is empty;
what is inserted, committed or rolled back in a session is nothing to the others; and all other work
leaves the ledger as it is.

* `HasSessions.openSession` — a session that is opened is a new one;
* `HasSessions.result_writeBatch` — a batch is committed in its session if it is reported as
  written, and else nothing is;
* `HasSessions.sameKept_toggle`, `sameKept_synchronize` — the work on foreign keys and sequences
  commits no rows.
-/

import Mathlib.Data.Set.Defs
import SchemaFerry.Proofs.Target.Toggling

namespace SchemaFerry.Target

open SchemaFerry.Constraints

variable {δ : Type}

/-- Which sessions of a destination were checked out, and what waits and was committed in each. -/
structure Ledger (δ : Type) where
  isOpen : Nat → δ → Prop
  waiting : Nat → δ → List Insertion
  kept : Nat → δ → List Insertion

/-- The ledger of some sessions stays as it is, and sessions that were checked out still are. -/
structure Ledger.Keeps (ledger : Ledger δ) (sessions : Set Nat) (before after : δ) : Prop where
  isOpen : ∀ session, ledger.isOpen session before → ledger.isOpen session after
  waiting : ∀ session ∈ sessions, ledger.waiting session after = ledger.waiting session before
  kept : ∀ session ∈ sessions, ledger.kept session after = ledger.kept session before

/-- **A server with sessions.**

* `unopened`, `opens` — a session that is checked out was not before, and nothing waits or was
  committed in a session that was not checked out;
* `transacts`, `refused` — each session has transactions, and a commit that fails commits nothing;
* `apart` — writing rows in a session leaves the ledger of all others as it is;
* `along`, `altering` — all other calls leave the whole ledger as it is. -/
structure Server.HasSessions (server : Server δ) (ledger : Ledger δ) : Prop where
  unopened : ∀ session state, ¬ ledger.isOpen session state →
    ledger.waiting session state = [] ∧ ledger.kept session state = []
  opens : ∀ {before after : δ} {session : Nat}, server.checkOut.result before = (.ok session, after) →
    ¬ ledger.isOpen session before ∧ ledger.isOpen session after
  transacts : ∀ session,
    (server.writer session).Transacts (ledger.waiting session) (ledger.kept session)
  refused : ∀ {session : Nat} {before after : δ} {fault : Fault},
    (server.writer session).commit.result before = (.error fault, after) →
      ledger.kept session after = ledger.kept session before
  apart : ∀ session (call : BatchCall),
    (call.make (server.writer session)).Moves (ledger.Keeps {other | other ≠ session})
  along : ∀ schema, server.MovesAlong schema (ledger.Keeps Set.univ)
  altering : ∀ schema action,
    (server.alterConstraints schema action).Moves (ledger.Keeps Set.univ)

section Keeps

variable {ledger : Ledger δ} {sessions fewer : Set Nat} {before between after : δ}

theorem Ledger.Keeps.refl (state : δ) : ledger.Keeps sessions state state :=
  ⟨fun _ => id, fun _ _ => rfl, fun _ _ => rfl⟩

theorem Ledger.Keeps.trans (first : ledger.Keeps sessions before between)
    (later : ledger.Keeps sessions between after) : ledger.Keeps sessions before after :=
  ⟨fun session opened => later.isOpen session (first.isOpen session opened),
    fun session member => (later.waiting session member).trans (first.waiting session member),
    fun session member => (later.kept session member).trans (first.kept session member)⟩

/-- In every session the same was committed as before. -/
def Ledger.SameKept (ledger : Ledger δ) (before after : δ) : Prop :=
  ∀ session, ledger.kept session after = ledger.kept session before

theorem Ledger.SameKept.refl (state : δ) : ledger.SameKept state state :=
  fun _ => rfl

theorem Ledger.Keeps.sameKept (keeps : ledger.Keeps Set.univ before after) :
    ledger.SameKept before after :=
  fun session => keeps.kept session trivial

theorem Ledger.SameKept.trans (first : ledger.SameKept before between)
    (later : ledger.SameKept between after) : ledger.SameKept before after :=
  fun session => (later session).trans (first session)

theorem Ledger.SameKept.bind {α β : Type} {call : Session δ α} {next : α → Session δ β} {state : δ}
    (one : ledger.SameKept state (call.result state).2)
    (others : ∀ value between, call.result state = (.ok value, between) →
      ledger.SameKept between ((next value).result between).2) :
    ledger.SameKept state ((call >>= next).result state).2 :=
  Session.related_bind one others (fun _ _ _ => .trans) fun _ _ => id

theorem Ledger.Keeps.mono (keeps : ledger.Keeps sessions before after)
    (fewerOf : ∀ session ∈ fewer, session ∈ sessions) : ledger.Keeps fewer before after :=
  ⟨keeps.isOpen, fun session member => keeps.waiting session (fewerOf session member),
    fun session member => keeps.kept session (fewerOf session member)⟩

end Keeps

namespace Server.HasSessions

variable {server : Server δ} {ledger : Ledger δ} {state after : δ} {session : Nat}

/-- **A session that is opened** is a new one, for which nothing waits and in which nothing was
committed. -/
theorem openSession (has : server.HasSessions ledger)
    (opened : server.openSession.result state = (.ok session, after)) :
    ¬ ledger.isOpen session state ∧ ledger.isOpen session after ∧
      ledger.waiting session after = [] ∧ ledger.kept session after = [] := by
  have along := has.along ""
  obtain ⟨_, between, first, later⟩ := Session.result_bind_eq_ok_iff.mp opened
  obtain ⟨_, _, prepared, given⟩ := Session.result_bind_eq_ok_iff.mp later
  cases given
  obtain ⟨new, there⟩ := has.opens (Session.result_mapFault_eq_ok_iff.mp first)
  have keeps := (along.checkOut.along (Session.result_mapFault_eq_ok_iff.mp first)).trans
    ((along.prepareSession session).along prepared)
  obtain ⟨idle, empty⟩ := has.unopened session state new
  exact ⟨new, ((along.prepareSession session).along prepared).isOpen session there,
    (keeps.waiting session trivial).trans idle, (keeps.kept session trivial).trans empty⟩

/-- Writing a batch leaves the ledger of other sessions as it is. -/
theorem apart_writeBatch (has : server.HasSessions ledger) (session : Nat) (statement : String)
    (rows : List Row) :
    ((server.writer session).writeBatch statement rows).Moves
      (ledger.Keeps {other | other ≠ session}) :=
  Writer.moves_writeBatch .refl (fun _ _ _ => .trans) (has.apart session) statement rows

/-- **A batch is committed in its session** if it is reported as written, and else nothing is. -/
theorem result_writeBatch (has : server.HasSessions ledger) {statement : String} {rows : List Row}
    {written : Except Fault Nat} (present : rows ≠ []) (idle : ledger.waiting session state = [])
    (made : ((server.writer session).writeBatch statement rows).result state = (written, after)) :
    (∃ fault, written = .error fault ∧
        ledger.kept session after = ledger.kept session state) ∨
      (written = .ok rows.length ∧ ledger.waiting session after = [] ∧
        ledger.kept session after = ledger.kept session state ++ [(statement, rows)]) := by
  have settles := writeBatch_isSettled (has.transacts session) statement rows state
  generalize (server.writer session).writing statement rows state = course at settles
  obtain ⟨rfl, rfl⟩ := Prod.mk.inj (made.symm.trans settles.same)
  cases result : course.1 with
  | ok count =>
    obtain ⟨rfl, whole⟩ := settles.whole count result
    obtain ⟨all, nothing⟩ := whole present
    rw [idle, List.append_nil] at all
    exact .inr ⟨rfl, nothing, all⟩
  | error fault =>
    refine .inl ⟨fault, rfl, ?_⟩
    by_cases refused : (.commit, .error fault) ∈ course.2.answered
    · obtain ⟨_, between, failed, same, _⟩ := settles.uncommitted fault refused
      rw [has.refused failed, same]
    · obtain ⟨answer, rolledBack⟩ := settles.rolledBack_iff.mpr ⟨fault, result, refused⟩
      exact (settles.undone answer rolledBack).1

/-- A commit of a session for which nothing waits commits nothing. -/
theorem sameKept_commit (has : server.HasSessions ledger)
    (idle : ledger.waiting session state = []) :
    ledger.SameKept state ((server.writer session).commit.result state).2 := by
  intro other
  by_cases own : other = session
  · subst own
    rcases committed : (server.writer other).commit.result state with ⟨fault | _, after⟩
    · exact has.refused committed
    · rw [((has.transacts other).commits committed).2, idle, List.append_nil]
  · exact (has.apart session .commit state).kept other own

/-- **The work on foreign keys** commits no rows. -/
theorem sameKept_toggle (has : server.HasSessions ledger) (schema : String) (action : Action) :
    (server.toggle schema action).Moves ledger.SameKept := by
  have along := has.along schema
  intro state
  refine Ledger.SameKept.bind (along.openSession state).sameKept fun session opened first => ?_
  obtain ⟨_, _, idle, _⟩ := has.openSession first
  refine Ledger.SameKept.bind (along.listConstraints opened).sameKept fun listing listed second => ?_
  dsimp only
  split
  · exact .refl listed
  · refine Ledger.SameKept.bind (has.altering schema action listed).sameKept
      fun _ altered third => ?_
    have still := (along.listConstraints.along second).trans ((has.altering schema action).along third)
    refine Ledger.SameKept.bind (has.sameKept_commit ?_) fun _ committed _ => ?_
    · exact (still.waiting session trivial).trans idle
    · exact (along.listConstraints.andThen _ committed).sameKept

/-- **The work on sequences** commits no rows. -/
theorem sameKept_synchronize (has : server.HasSessions ledger) (schema : String) :
    (server.synchronize schema).Moves ledger.SameKept :=
  fun state => ((has.along schema).synchronize state).sameKept

end Server.HasSessions

/-! ### A destination in memory -/

namespace Memory

/-- The ledger of a destination in memory. -/
def ledger : Ledger Memory where
  isOpen session memory := session < memory.leases.length
  waiting := waiting
  kept := kept

/-- A destination whose sessions are the same has the same ledger. -/
theorem keeps_of_leases {sessions : Set Nat} {before after : Memory}
    (same : after.leases = before.leases) : ledger.Keeps sessions before after := by
  refine ⟨fun session opened => ?_, fun session _ => ?_, fun session _ => ?_⟩
  · exact Nat.lt_of_lt_of_eq opened (congrArg List.length same.symm)
  · show waiting session after = waiting session before
    rw [waiting, waiting, same]
  · show kept session after = kept session before
    rw [kept, kept, same]

/-- A call whose answer leaves the ledger of some sessions as it is. -/
theorem keeps_serve {α : Type} {sessions : Set Nat} (call : Call)
    {answer : Memory → Except Fault α × Memory}
    (keeps : ∀ memory, ledger.Keeps sessions memory (answer memory).2) :
    (serve call answer).Moves (ledger.Keeps sessions) :=
  serve_along call (fun _ _ _ => .trans) (fun _ _ _ => keeps_of_leases rfl) keeps

/-- A session that is checked out comes behind all others. -/
theorem keeps_checkOut (memory : Memory) : ledger.Keeps Set.univ memory (checkOut memory).2 := by
  have sameAt : ∀ (view : Lease → List Insertion) (session : Nat), view (⟨[], []⟩ : Lease) = [] →
      (((checkOut memory).2.leases[session]?).map view).getD [] =
        ((memory.leases[session]?).map view).getD [] := by
    intro view session empty
    show (((memory.leases ++ [(⟨[], []⟩ : Lease)])[session]?).map view).getD [] = _
    rw [List.getElem?_append]
    split
    · rfl
    · next beyond =>
      rw [List.getElem?_eq_none (Nat.le_of_not_lt beyond)]
      cases session - memory.leases.length with
      | zero => exact empty
      | succ => rfl
  refine ⟨fun session opened => ?_, fun session _ => sameAt _ session rfl,
    fun session _ => sameAt _ session rfl⟩
  show session < (memory.leases ++ [(⟨[], []⟩ : Lease)]).length
  rw [List.length_append]
  exact Nat.lt_add_right _ opened

/-- A change in a session leaves the others as they are. -/
theorem keeps_inSession (session : Nat) (change : Lease → Lease) (memory : Memory) :
    ledger.Keeps {other | other ≠ session} memory (inSession session change memory).2 := by
  rcases inSession_cases session change memory with ⟨lease, _, changed⟩ | ⟨fault, refused⟩
  · rw [changed]
    have sameAt : ∀ other, other ≠ session →
        (memory.leases.set session (change lease))[other]? = memory.leases[other]? :=
      fun other different => List.getElem?_set_ne (Ne.symm different)
    refine ⟨fun other opened => ?_, fun other different => ?_, fun other different => ?_⟩
    · exact Nat.lt_of_lt_of_eq opened List.length_set.symm
    · show waiting other _ = waiting other memory
      rw [waiting, waiting, sameAt other different]
    · show kept other _ = kept other memory
      rw [kept, kept, sameAt other different]
  · rw [refused]
    exact .refl memory

/-- A session that was not checked out has an empty ledger. -/
theorem empty_of_unopened {session : Nat} {memory : Memory}
    (unopened : ¬ ledger.isOpen session memory) :
    ledger.waiting session memory = [] ∧ ledger.kept session memory = [] := by
  have absent : memory.leases[session]? = none :=
    List.getElem?_eq_none (Nat.le_of_not_lt unopened)
  constructor
  · show waiting session memory = []
    rw [waiting, absent]
    rfl
  · show kept session memory = []
    rw [kept, absent]
    rfl

/-- A commit that fails commits nothing. -/
theorem kept_of_refused {session : Nat} {before after : Memory} {fault : Fault}
    (failed : (writer session).commit.result before = (.error fault, after)) :
    ledger.kept session after = ledger.kept session before := by
  obtain ⟨failures, ⟨_, refused⟩ | answered⟩ :=
    serve_cases .commit (inSession session .commit) before
  · cases refused.symm.trans failed
    rfl
  · replace answered := answered.symm.trans failed
    rcases inSession_cases session .commit { before with calls := .commit :: before.calls, failures }
      with ⟨_, _, changed⟩ | ⟨_, refused⟩
    · cases changed.symm.trans answered
    · cases refused.symm.trans answered
      rfl

/-- **A destination in memory has sessions.** -/
theorem hasSessions : server.HasSessions ledger where
  unopened _ _ := empty_of_unopened
  opens {before after session} opened := by
    obtain ⟨_, given⟩ := answered_of_serve opened
    cases given
    refine ⟨Nat.lt_irrefl _, ?_⟩
    show before.leases.length < (before.leases ++ [(⟨[], []⟩ : Lease)]).length
    rw [List.length_append]
    exact Nat.lt_succ_self _
  transacts := transacts
  refused := kept_of_refused
  apart session call := by
    cases call with
    | build => exact keeps_serve _ .refl
    | append => exact .refl
    | execute | commit | rollback => exact keeps_serve _ (keeps_inSession session _)
  along schema := movesAlong schema .refl (fun _ _ _ => .trans) (fun _ _ _ => keeps_of_leases rfl)
    keeps_checkOut fun _ _ => keeps_of_leases rfl
  altering schema action := keeps_serve _ fun _ => keeps_of_leases rfl

end Memory

end SchemaFerry.Target
