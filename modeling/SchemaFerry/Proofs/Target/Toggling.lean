/-
**What turning foreign keys off and on comes to.**

The block for an action alters each foreign key of the status that it is for, or passes over it;
whatever else is called, the keys stay as they are (`AltersByBlock`). So after an action a key
stands where it stood before or where the action brings it, even if the action fails half way
(`toggle_alters`).

* **`toggle_accounts`** — if the action gives outcomes, a key that it was for and that it did not
  bring where it should is among those that failed.
-/

import Mathlib.Data.Set.Defs
import SchemaFerry.Proofs.Target.Batches

namespace SchemaFerry.Sequences

open SchemaFerry.Report

variable {σ : Type}

/-- All calls of the work on sequences move the state along a relation. -/
structure Operations.MoveAlong (operations : Operations σ) (related : σ → σ → Prop) : Prop where
  still : ∀ state, related state state
  through : ∀ before between after, related before between → related between after →
    related before after
  tablesStartingWith : ∀ start, (operations.tablesStartingWith start).Moves related
  hasIdentifier : ∀ table, (operations.hasIdentifier table).Moves related
  greatestIdentifier : ∀ table, (operations.greatestIdentifier table).Moves related
  draw : ∀ sequence, (operations.draw sequence).Moves related
  setStep : ∀ sequence step, (operations.setStep sequence step).Moves related

namespace Operations.MoveAlong

variable {operations : Operations σ} {related : σ → σ → Prop}

theorem advance (along : operations.MoveAlong related) (sequence : String) (distance : Int) :
    (Sequences.advance operations sequence distance).Moves related :=
  (along.setStep sequence distance).next along.through fun _ =>
    (along.draw sequence).andAlways (along.setStep sequence 1) along.through

theorem catchUp (along : operations.MoveAlong related) (sequence table : String) :
    (Sequences.catchUp operations sequence table).Moves related := by
  have done : ∀ outcome : Option Outcome,
      (pure outcome : Session σ (Option Outcome)).Moves related :=
    fun outcome => Session.moves_pure along.still outcome
  refine (along.hasIdentifier table).next along.through fun known => ?_
  cases known with
  | false => exact done _
  | true =>
    refine (along.greatestIdentifier table).next along.through fun greatest => ?_
    cases greatest with
    | none => exact done _
    | some greatest =>
      refine (along.draw sequence).next along.through fun last => ?_
      cases lag last greatest with
      | reached | overflow => exact done _
      | behind distance => exact (along.advance sequence _).next along.through fun _ => done _

theorem catchUpNamed (along : operations.MoveAlong related) (sequence name : String) :
    (Sequences.catchUpNamed operations sequence name).Moves related := by
  have done : ∀ outcome : Option Outcome,
      (pure outcome : Session σ (Option Outcome)).Moves related :=
    fun outcome => Session.moves_pure along.still outcome
  have looked : (lookUp operations sequence name).Moves related :=
    (along.tablesStartingWith name).andThen _
  refine looked.next along.through fun lookup => ?_
  cases lookup with
  | found table => exact along.catchUp sequence table
  | missing | ambiguous => exact done _

theorem synchronize (along : operations.MoveAlong related) (sequence : String) (state : σ) :
    related state ((Sequences.synchronize operations sequence).run state).2 := by
  cases named : table? sequence with
  | none =>
    unfold Sequences.synchronize
    rw [named]
    exact along.still state
  | some name =>
    have moved := along.catchUpNamed sequence name state
    rw [run_synchronize named]
    rcases shape : (Sequences.catchUpNamed operations sequence name).result state with
      ⟨given, after⟩
    rw [shape] at moved
    cases given <;> exact moved

/-- **Catching sequences up** moves the state along, whatever fails. -/
theorem synchronizeAll (along : operations.MoveAlong related) (sequences : List String)
    (state : σ) : related state ((Sequences.synchronizeAll operations sequences).run state).2 := by
  induction sequences generalizing state with
  | nil => exact along.still state
  | cons sequence rest ih =>
    have first := along.synchronize sequence state
    rw [Sequences.synchronizeAll, StateT.run_bind]
    rcases shape : (Sequences.synchronize operations sequence).run state with
      ⟨outcome | outcome, between⟩
    · rw [shape] at first
      exact first
    · rw [shape] at first
      exact along.through _ _ _ first (ih between)

end Operations.MoveAlong

end SchemaFerry.Sequences

namespace SchemaFerry.Target

open SchemaFerry.Constraints SchemaFerry.Report

variable {δ : Type}

/-- All calls to a destination but those that write rows and the block that alters foreign keys move
its state along a relation. -/
structure Server.MovesAlong (server : Server δ) (schema : String) (related : δ → δ → Prop) :
    Prop where
  createPool : ∀ pool, (server.createPool pool).Moves related
  checkOut : server.checkOut.Moves related
  ping : ∀ session, (server.ping session).Moves related
  prepareSession : ∀ session, (server.prepareSession session).Moves related
  listConstraints : (server.listConstraints schema).Moves related
  listSequences : (server.listSequences schema).Moves related
  sequences : (server.sequences schema).MoveAlong related

/-- All calls to a destination but the block that alters foreign keys move its state along a
relation. -/
structure Server.MovesBesides (server : Server δ) (schema : String) (related : δ → δ → Prop) :
    Prop extends server.MovesAlong schema related where
  writer : ∀ session (call : BatchCall), (call.make (server.writer session)).Moves related

/-- Any destination moves along the relation that always holds. -/
theorem Server.movesBesides_true (server : Server δ) (schema : String) :
    server.MovesBesides schema fun _ _ => True where
  createPool _ := Session.moves_true _
  checkOut := Session.moves_true _
  ping _ := Session.moves_true _
  prepareSession _ := Session.moves_true _
  listConstraints := Session.moves_true _
  listSequences := Session.moves_true _
  sequences := by
    constructor <;> intros <;> first | trivial | exact Session.moves_true _
  writer _ _ := Session.moves_true _

section Servers

variable {server : Server δ} {schema : String} {related : δ → δ → Prop}

namespace Server.MovesAlong

theorem openPool (along : server.MovesAlong schema related) (connection : Connection)
    (size : Nat) : (server.openPool connection size).Moves related :=
  ((along.createPool _).mapFault _).next along.sequences.through fun _ =>
    (along.checkOut.mapFault _).next along.sequences.through along.ping

theorem openSession (along : server.MovesAlong schema related) :
    server.openSession.Moves related :=
  (along.checkOut.mapFault _).next along.sequences.through fun session =>
    (along.prepareSession session).andThen fun _ => session

theorem synchronize (along : server.MovesAlong schema related) :
    (server.synchronize schema).Moves related := by
  refine along.openSession.next along.sequences.through fun _ => ?_
  refine along.listSequences.next along.sequences.through fun sequences => ?_
  refine Session.Moves.next (fun state => along.sequences.synchronizeAll sequences state)
    along.sequences.through fun outcomes => ?_
  cases outcomes with
  | some outcomes => exact Session.moves_pure along.sequences.still outcomes
  | none => exact along.sequences.still

end Server.MovesAlong

end Servers

/-! ### Foreign keys -/

/-- Where the foreign keys of a schema stand that are there. -/
abbrev Standings := Key → Option String

/-- Where the foreign keys of a listing stand. -/
def Standings.ofListing (listing : List (Key × String)) : Standings := fun key =>
  (Statuses.ofListing listing).lookup key

/-- A destination that nobody else alters stays so, and its foreign keys stay as they are. -/
structure KeepsKeys (isOurs : δ → Prop) (standing : δ → Standings) (before after : δ) : Prop where
  ours : isOurs before → isOurs after
  same : standing after = standing before

/-- What an action makes of foreign keys: each one stays as it is, or goes from the status that the
action is for to the one that it gives. -/
def Alters (action : Action) (before after : Standings) : Prop :=
  ∀ key, after key = before key ∨ (before key = some action.before ∧ after key = some action.after)

/-- What an action makes of foreign keys if only some of them are stuck: each other one that it is
for is altered, and all the rest stay as they are. -/
structure AltersBut (action : Action) (stuck : Set Key) (before after : Standings) : Prop where
  altered : ∀ key, before key = some action.before → key ∉ stuck → after key = some action.after
  kept : ∀ key, before key ≠ some action.before ∨ key ∈ stuck → after key = before key

/-- **Only the block for an action alters foreign keys**, and it does what it is for or less: a
listing tells where they stand; as long as nobody else alters the destination, each key of the
status that the block is for is altered or stays as it is, and so do the others. -/
structure Server.AltersByBlock (server : Server δ) (schema : String) (isOurs : δ → Prop)
    (standing : δ → Standings) : Prop where
  besides : server.MovesBesides schema (KeepsKeys isOurs standing)
  listed : ∀ {state after : δ} {listing : List (Key × String)},
    (server.listConstraints schema).result state = (.ok listing, after) →
      Standings.ofListing listing = standing state
  altered : ∀ action, (server.alterConstraints schema action).Moves fun before after =>
    isOurs before → isOurs after ∧ Alters action (standing before) (standing after)

/-- Foreign keys are enabled or disabled. -/
def IsPlain (standing : Standings) : Prop :=
  ∀ key found, standing key = some found → found = "ENABLED" ∨ found = "DISABLED"

section Alters

variable {action : Action} {before after : Standings}

theorem AltersBut.alters {stuck : Set Key} (but : AltersBut action stuck before after) :
    Alters action before after := by
  intro key
  by_cases was : before key = some action.before
  · by_cases member : key ∈ stuck
    · exact .inl (but.kept key (.inr member))
    · exact .inr ⟨was, but.altered key was member⟩
  · exact .inl (but.kept key (.inl was))

theorem Alters.isSome_eq (alters : Alters action before after) (key : Key) :
    (after key).isSome = (before key).isSome := by
  rcases alters key with same | ⟨was, given⟩
  · rw [same]
  · rw [was, given]
    rfl

theorem Alters.isPlain (alters : Alters action before after) (plain : IsPlain before) :
    IsPlain after := by
  intro key found stands
  rcases alters key with same | ⟨_, given⟩
  · exact plain key found (same ▸ stands)
  · obtain rfl : action.after = found := Option.some.inj (given.symm.trans stands)
    cases action with
    | disable => exact .inr rfl
    | enable => exact .inl rfl

/-- A key that is enabled stays enabled when keys are enabled. -/
theorem Alters.enabled (alters : Alters .enable before after) {key : Key}
    (enabled : before key = some "ENABLED") : after key = some "ENABLED" := by
  rcases alters key with same | ⟨_, given⟩
  · rw [same, enabled]
  · exact given

end Alters

section Toggling

variable {server : Server δ} {schema : String} {isOurs : δ → Prop} {standing : δ → Standings}

theorem KeepsKeys.alters {before after : δ} (keeps : KeepsKeys isOurs standing before after)
    (action : Action) (ours : isOurs before) :
    isOurs after ∧ Alters action (standing before) (standing after) :=
  ⟨keeps.ours ours, fun key => .inl (congrFun keeps.same key)⟩

/-- **An action** alters keys that it is for or passes over them, also if it fails half way. -/
theorem toggle_alters (byBlock : server.AltersByBlock schema isOurs standing) (action : Action) :
    (server.toggle schema action).Moves fun before after =>
      isOurs before → isOurs after ∧ Alters action (standing before) (standing after) := by
  have through := byBlock.besides.sequences.through
  have kept : ∀ before after, KeepsKeys isOurs standing before after →
      isOurs before → isOurs after ∧ Alters action (standing before) (standing after) :=
    fun _ _ keeps => keeps.alters action
  have early : ∀ before between after, KeepsKeys isOurs standing before between →
      (isOurs between → isOurs after ∧ Alters action (standing between) (standing after)) →
        isOurs before → isOurs after ∧ Alters action (standing before) (standing after) :=
    fun _ _ _ keeps alters ours => keeps.same ▸ alters (keeps.ours ours)
  have late : ∀ before between after,
      (isOurs before → isOurs between ∧ Alters action (standing before) (standing between)) →
        KeepsKeys isOurs standing between after →
        isOurs before → isOurs after ∧ Alters action (standing before) (standing after) := by
    intro before between after alters keeps ours
    obtain ⟨still, each⟩ := alters ours
    rw [keeps.same]
    exact ⟨keeps.ours still, each⟩
  refine byBlock.besides.openSession.bind (fun session => ?_) early kept
  refine byBlock.besides.listConstraints.bind (fun listing => ?_) early kept
  dsimp only
  split
  · exact Session.moves_pure (fun state => kept _ _ (byBlock.besides.sequences.still state)) []
  · refine (byBlock.altered action).bind (fun _ => ?_) late fun _ _ => id
    exact (byBlock.besides.writer session .commit).next through fun _ =>
      byBlock.besides.listConstraints.andThen _

/-- A key of the status that an action is for is among those that it is done to. -/
theorem mem_targeted {action : Action} {statuses : Statuses} {key : Key}
    (stands : statuses.lookup key = some action.before) : key ∈ targeted action statuses :=
  List.mem_map.mpr
    ⟨_, List.mem_filter.mpr ⟨Keyed.mem_of_lookup stands, beq_self_eq_true _⟩, rfl⟩

/-- A key that still has the status that an action is for has failed. -/
theorem judge_stuck {action : Action} {statuses : Statuses} {key : Key}
    (found : statuses.lookup key = some action.before) :
    judge action statuses key = .failed key.label
      ("status is still " ++ action.before ++ " after " ++ action.keyword) := by
  have other : action.before ≠ action.after := by cases action <;> decide
  rw [judge, found]
  exact if_neg other

/-- **What an action that gives outcomes did**: a key that it was for has the status that it gives,
or is among those that failed. -/
theorem toggle_accounts (byBlock : server.AltersByBlock schema isOurs standing) {action : Action}
    {state after : δ} {outcomes : List Outcome} (ours : isOurs state)
    (toggled : (server.toggle schema action).result state = (.ok outcomes, after)) {key : Key}
    (was : standing state key = some action.before) :
    standing after key = some action.after ∨
      ∃ reason, Outcome.failed key.label reason ∈ outcomes := by
  obtain ⟨_, each⟩ := (toggle_alters byBlock action).along toggled ours
  rcases each key with same | ⟨_, done⟩
  · right
    obtain ⟨_, session, opened, performed⟩ := Session.result_bind_eq_ok_iff.mp toggled
    have atFirst := byBlock.besides.openSession.along opened
    obtain ⟨listing, before, listed, rest⟩ := Session.result_bind_eq_ok_iff.mp performed
    have among : key ∈ targeted action (Statuses.ofListing listing) := by
      refine mem_targeted ?_
      show Standings.ofListing listing key = _
      rw [byBlock.listed listed, atFirst.same, was]
    dsimp only at rest
    rw [if_neg fun empty => List.ne_nil_of_mem among (List.isEmpty_iff.mp empty)] at rest
    obtain ⟨_, altered, _, rest⟩ := Session.result_bind_eq_ok_iff.mp rest
    obtain ⟨_, committed, _, rest⟩ := Session.result_bind_eq_ok_iff.mp rest
    obtain ⟨later, _, again, rest⟩ := Session.result_bind_eq_ok_iff.mp rest
    cases rest
    have atLast := byBlock.besides.listConstraints.along again
    have stuck : (Statuses.ofListing later).lookup key = some action.before := by
      show Standings.ofListing later key = _
      rw [byBlock.listed again, ← atLast.same, same, was]
    exact ⟨_, List.mem_map.mpr ⟨key, among, judge_stuck stuck⟩⟩
  · exact .inl done

end Toggling

/-! ### A destination in memory -/

namespace Memory

/-- Nobody else alters a destination in memory of which no key vanishes. -/
def isOurs (memory : Memory) : Prop :=
  memory.vanishing = []

/-- Where each foreign key of a destination in memory stands. -/
def standing (memory : Memory) : Standings :=
  .ofListing memory.constraints

/-- A change of a sequence is none of the rest. -/
theorem exists_change {α : Type} (place : String) (step : Sequences.Counter → Sequences.Counter)
    (answer : Sequences.Counter → α) (memory : Memory) :
    ∃ sequences, (change place step answer memory).2 = { memory with sequences } := by
  unfold change
  split
  · exact ⟨memory.sequences, rfl⟩
  · exact ⟨_, rfl⟩

section Along

variable {related : Memory → Memory → Prop}

/-- **A call moves a destination in memory along** if the note of it does and its answer does. -/
theorem serve_along {α : Type} (call : Call) {answer : Memory → Except Fault α × Memory}
    (through : ∀ before between after, related before between → related between after →
      related before after)
    (noted : ∀ memory calls failures, related memory { memory with calls, failures })
    (answered : ∀ memory, related memory (answer memory).2) : (serve call answer).Moves related :=
  serve_moves call noted fun memory _ _ => through _ _ _ (noted memory _ _) (answered _)

/-- **A destination in memory moves along** a relation that holds when a call is noted, a session is
checked out or a sequence is changed. -/
theorem movesAlong (schema : String) (still : ∀ memory, related memory memory)
    (through : ∀ before between after, related before between → related between after →
      related before after)
    (noted : ∀ memory calls failures, related memory { memory with calls, failures })
    (leased : ∀ memory : Memory, related memory (checkOut memory).2)
    (counted : ∀ (memory : Memory) sequences, related memory { memory with sequences }) :
    server.MovesAlong schema related := by
  have acknowledged : ∀ call, (acknowledge call).Moves related :=
    fun call => serve_along call through noted still
  have looked : ∀ {α : Type} (call : Call) (answer : Memory → Except Fault α),
      (look call answer).Moves related :=
    fun call _ => serve_along call through noted still
  have stepped : ∀ {α : Type} (call : Call) (place : String)
      (step : Sequences.Counter → Sequences.Counter) (answer : Sequences.Counter → α),
      (serve call (change place step answer)).Moves related := by
    intro α call place step answer
    refine serve_along call through noted fun memory => ?_
    obtain ⟨sequences, changed⟩ := exists_change place step answer memory
    rw [changed]
    exact counted memory sequences
  exact {
    createPool := fun _ => acknowledged _
    checkOut := serve_along _ through noted leased
    ping := fun _ => acknowledged _
    prepareSession := fun _ => acknowledged _
    listConstraints := looked _ _
    listSequences := looked _ _
    sequences := {
      still
      through
      tablesStartingWith := fun _ => looked _ _
      hasIdentifier := fun _ => looked _ _
      greatestIdentifier := fun _ => looked _ _
      draw := fun _ => stepped _ _ _ _
      setStep := fun _ _ => stepped _ _ _ _ } }

end Along

theorem keepsKeys_through (before between after : Memory)
    (first : KeepsKeys isOurs standing before between)
    (later : KeepsKeys isOurs standing between after) : KeepsKeys isOurs standing before after :=
  ⟨later.ours ∘ first.ours, later.same.trans first.same⟩

theorem keepsKeys_serve {α : Type} (call : Call) {answer : Memory → Except Fault α × Memory}
    (keeps : ∀ memory, KeepsKeys isOurs standing memory (answer memory).2) :
    (serve call answer).Moves (KeepsKeys isOurs standing) :=
  serve_along call keepsKeys_through (fun _ _ _ => ⟨id, rfl⟩) keeps

/-- Writing rows keeps the foreign keys. -/
theorem keepsKeys_writer (session : Nat) (call : BatchCall) :
    (call.make (server.writer session)).Moves (KeepsKeys isOurs standing) := by
  have inside : ∀ (change : Lease → Lease) (memory : Memory),
      KeepsKeys isOurs standing memory (inSession session change memory).2 := by
    intro change memory
    rcases inSession_cases session change memory with ⟨_, _, changed⟩ | ⟨_, refused⟩
    · rw [changed]
      exact ⟨id, rfl⟩
    · rw [refused]
      exact ⟨id, rfl⟩
  cases call with
  | build => exact keepsKeys_serve _ fun _ => ⟨id, rfl⟩
  | append => exact Session.moves_pure (fun _ => ⟨id, rfl⟩) ()
  | execute | commit | rollback => exact keepsKeys_serve _ (inside _)

/-- A destination in memory whose keys have other statuses. -/
def changed (memory : Memory) (change : Key → String → String) : Memory :=
  { memory with constraints := memory.constraints.map fun entry =>
      (entry.1, change entry.1 entry.2) }

theorem standing_changed (memory : Memory) (change : Key → String → String) (key : Key) :
    standing (memory.changed change) key = (standing memory key).map (change key) :=
  Keyed.lookup_ofList_map change memory.constraints key

/-- The status of a key of a destination in memory after an action, if it does not vanish. -/
def statusAfter (memory : Memory) (action : Action) (key : Key) (status : String) : String :=
  if status = action.before ∧ key.name ∉ memory.stuck then action.after else status

/-- No key vanishes from a destination that nobody else alters. -/
theorem alter_eq_changed {memory : Memory} (ours : isOurs memory) (action : Action) :
    memory.alter action = memory.changed (memory.statusAfter action) := by
  have each : ∀ entry, memory.alterKey action entry =
      some (entry.1, memory.statusAfter action entry.1 entry.2) := by
    intro entry
    have stays : memory.vanishing.contains entry.1.name = false := by
      rw [ours]
      rfl
    rw [alterKey, statusAfter, stays, if_neg Bool.false_ne_true]
    by_cases was : entry.2 = action.before
    · by_cases stuck : entry.1.name ∈ memory.stuck
      · rw [if_neg fun other => other was, if_pos (List.contains_iff_mem.mpr stuck),
          if_neg fun both => both.2 stuck]
      · rw [if_neg fun other => other was,
          if_neg fun among => stuck (List.contains_iff_mem.mp among), if_pos ⟨was, stuck⟩]
    · rw [if_pos was, if_neg fun both => was both.1]
  rw [alter, funext each, changed, ← List.filterMap_eq_map]
  rfl

/-- **An action on a destination in memory** alters the keys that it is for, but those that are
stuck. -/
theorem altersBut_alter {memory : Memory} (ours : isOurs memory) (action : Action) :
    AltersBut action {key | key.name ∈ memory.stuck} (standing memory)
      (standing (memory.alter action)) := by
  rw [alter_eq_changed ours]
  refine ⟨fun key was free => ?_, fun key rest => ?_⟩
  · rw [standing_changed, was, Option.map_some, statusAfter, if_pos ⟨rfl, free⟩]
  · rw [standing_changed]
    cases found : standing memory key with
    | none => rfl
    | some status =>
      rw [Option.map_some, statusAfter, if_neg]
      rintro ⟨rfl, free⟩
      exact rest.elim (fun other => other found) free

/-- **A destination in memory** alters its foreign keys by the block only. -/
theorem altersByBlock (schema : String) : server.AltersByBlock schema isOurs standing := by
  refine ⟨⟨?_, keepsKeys_writer⟩, ?_, ?_⟩
  · exact movesAlong schema (fun _ => ⟨id, rfl⟩) keepsKeys_through (fun _ _ _ => ⟨id, rfl⟩)
      (fun _ => ⟨id, rfl⟩) fun _ _ => ⟨id, rfl⟩
  · intro memory after listing listed
    have call : (look (.statement constraintListing (.positions [schema])) fun memory =>
      .ok memory.constraints).result memory = (.ok listing, after) := listed
    obtain ⟨failures, ⟨fault, failed⟩ | answered⟩ := serve_cases
      (.statement constraintListing (.positions [schema])) (fun memory =>
        (.ok memory.constraints, memory)) memory
    · cases failed.symm.trans call
    · cases answered.symm.trans call
      rfl
  · intro action memory ours
    let call : Call := .statement action.block (.names [("owner", schema)])
    show isOurs ((serve call _).result memory).2 ∧
      Alters _ _ (standing ((serve call _).result memory).2)
    obtain ⟨failures, ⟨fault, failed⟩ | answered⟩ := serve_cases call (fun memory =>
      (.ok (), memory.alter action)) memory
    · rw [failed]
      exact ⟨ours, fun key => .inl rfl⟩
    · have still : isOurs { memory with calls := call :: memory.calls, failures } := ours
      rw [answered]
      exact ⟨still, (altersBut_alter still action).alters⟩

end Memory

end SchemaFerry.Target
