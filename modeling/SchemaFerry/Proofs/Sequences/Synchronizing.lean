/-
**A sequence that is caught up is ahead of its table.**

Catching up is up to seven calls in turn, each of which may fail. Three relations between the memory
before and after are kept by every call, so by all of them in turn, wherever they end:

* `OnlyTouches` — tables, planned failures and other sequences are as before;
* `GoesForward` — a sequence with a positive step has one afterwards, and its last number is not
  less than before;
* `SetsBack` — the step is as before, or the last call set it back to one and did that unless it was
  listed to fail.

What a run that gives an outcome has done is read off its calls, all of which gave a value
(`catchUpNamed_eq_ok`). There is one if the distances that the sequence can be moved by fit
(`IsWithinReach`). **`synchronize_isSynchronized`** puts these together.
-/

import SchemaFerry.Proofs.Session
import SchemaFerry.Sequences.Memory

namespace SchemaFerry.Sequences

open SchemaFerry.Report

namespace Memory

/-! ### One call -/

/-- The memory with one more call noted. -/
def noting (memory : Memory) (call : Call) : Memory :=
  { memory with calls := call :: memory.calls }

/-- The memory with a counter for a sequence. -/
def putting (memory : Memory) (sequence : String) (counter : Counter) : Memory :=
  { memory with sequences := Keyed.insert sequence counter memory.sequences }

/-- The calls of an operation, the last first. -/
def callsOf (memory : Memory) (operation : Operation) : List Call :=
  memory.calls.filter fun call => call.operation == operation

/-- Whether a call of an operation is listed to fail, by the number of the call. -/
def fails (memory : Memory) (operation : Operation) (number : Nat) : Bool :=
  memory.failures.any fun failure => failure.operation == operation && failure.number == number

@[simp]
theorem lookup_putting (memory : Memory) (sequence other : String) (counter : Counter) :
    (memory.putting sequence counter).sequences.lookup other =
      if other = sequence then some counter else memory.sequences.lookup other :=
  Keyed.lookup_insert sequence other counter memory.sequences

/-- A call that is listed to fail is noted and does nothing else. -/
theorem serve_cases {α : Type} (call : Call) (answer : Memory → Except Fault α × Memory)
    (memory : Memory) :
    (memory.fails call.operation ((memory.noting call).calls.countP fun other =>
          other.operation == call.operation) = true ∧
        ∃ fault, (serve call answer).result memory = (.error fault, memory.noting call)) ∨
      (serve call answer).result memory = answer (memory.noting call) := by
  rw [serve, Session.result_ofFunction]
  cases listed : (memory.noting call).failure? call.operation with
  | none =>
    right
    simp only [noting] at listed
    simp only [listed]
    rfl
  | some fault =>
    left
    refine ⟨?_, fault, ?_⟩
    · rw [failure?, Option.map_eq_some_iff] at listed
      obtain ⟨failure, found, _⟩ := listed
      have agrees := List.find?_some found
      exact List.any_eq_true.mpr ⟨failure, List.mem_of_find?_eq_some found, agrees⟩
    · simp only [noting] at listed
      simp only [listed]
      rfl

/-- A question is noted and changes nothing else. -/
theorem serve_state_of_question {α : Type} (call : Call) (value : Memory → Except Fault α)
    (memory : Memory) :
    ((serve call fun known => (value known, known)).result memory).2 = memory.noting call := by
  rcases serve_cases call (fun known => (value known, known)) memory with ⟨_, _, failed⟩ | served
  · rw [failed]
  · rw [served]

/-- **A draw** fails and changes nothing, or it moves the last number on by the step. -/
theorem draw_cases (sequence : String) (memory : Memory) :
    (∃ fault, (operations.draw sequence).result memory =
        (.error fault, memory.noting (.draw sequence))) ∨
      ∃ counter, memory.sequences.lookup sequence = some counter ∧
        (operations.draw sequence).result memory =
          (.ok (counter.last + counter.step),
            (memory.noting (.draw sequence)).putting sequence
              { counter with last := counter.last + counter.step }) := by
  rcases serve_cases (.draw sequence) (change sequence (fun counter =>
      { counter with last := counter.last + counter.step }) (·.last)) memory with
    ⟨_, failed⟩ | served
  · exact .inl failed
  · unfold change counter at served
    cases found : memory.sequences.lookup sequence with
    | none =>
      have same : (memory.noting (.draw sequence)).sequences.lookup sequence = none := found
      rw [same] at served
      exact .inl ⟨_, served⟩
    | some counter =>
      have same : (memory.noting (.draw sequence)).sequences.lookup sequence = some counter := found
      rw [same] at served
      exact .inr ⟨counter, rfl, served⟩

/-- **A change of the step** fails and changes nothing, because it is listed to or because there is
no such sequence, or it sets the step. -/
theorem setStep_cases (sequence : String) (step : Int) (memory : Memory) :
    (∃ fault, (operations.setStep sequence step).result memory =
          (.error fault, memory.noting (.setStep sequence step)) ∧
        (memory.fails .setStep ((memory.callsOf .setStep).length + 1) = true ∨
          memory.sequences.lookup sequence = none)) ∨
      ∃ counter, memory.sequences.lookup sequence = some counter ∧
        (operations.setStep sequence step).result memory =
          (.ok (), (memory.noting (.setStep sequence step)).putting sequence
            { counter with step }) := by
  rcases serve_cases (.setStep sequence step) (change sequence (fun counter =>
      { counter with step }) fun _ => ()) memory with ⟨listed, fault, failed⟩ | served
  · refine .inl ⟨fault, failed, .inl ?_⟩
    have number : ((memory.noting (.setStep sequence step)).calls.countP fun other =>
        other.operation == .setStep) = (memory.callsOf .setStep).length + 1 := by
      rw [List.countP_eq_length_filter]
      rfl
    rw [← number]
    exact listed
  · unfold change counter at served
    cases found : memory.sequences.lookup sequence with
    | none =>
      have same : (memory.noting (.setStep sequence step)).sequences.lookup sequence = none := found
      rw [same] at served
      exact .inl ⟨_, served, .inr rfl⟩
    | some counter =>
      have same : (memory.noting (.setStep sequence step)).sequences.lookup sequence =
        some counter := found
      rw [same] at served
      exact .inr ⟨counter, rfl, served⟩

/-! ### What every call keeps -/

/-- **Nothing but a sequence is touched**: tables, planned failures and other sequences are as
before, and no sequence appears. -/
structure OnlyTouches (sequence : String) (before after : Memory) : Prop where
  tables : after.tables = before.tables
  failures : after.failures = before.failures
  others : ∀ other, other ≠ sequence → after.sequences.lookup other = before.sequences.lookup other
  absent : before.sequences.lookup sequence = none → after.sequences.lookup sequence = none

/-- **A sequence with a positive step goes forward**, and its step stays positive. -/
def GoesForward (sequence : String) (before after : Memory) : Prop :=
  ∀ counter, before.sequences.lookup sequence = some counter → 1 ≤ counter.step →
    ∃ later, after.sequences.lookup sequence = some later ∧
      counter.last ≤ later.last ∧ 1 ≤ later.step

/-- **The step of a sequence is kept**, and no call set a step. -/
structure KeepsStep (sequence : String) (before after : Memory) : Prop where
  failures : after.failures = before.failures
  stepCalls : after.callsOf .setStep = before.callsOf .setStep
  step : (after.sequences.lookup sequence).map Counter.step =
    (before.sequences.lookup sequence).map Counter.step

section Relations

variable {sequence : String} {before between after : Memory}

theorem OnlyTouches.refl (memory : Memory) : OnlyTouches sequence memory memory :=
  ⟨rfl, rfl, fun _ _ => rfl, id⟩

theorem OnlyTouches.trans (first : OnlyTouches sequence before between)
    (second : OnlyTouches sequence between after) : OnlyTouches sequence before after :=
  ⟨second.tables.trans first.tables, second.failures.trans first.failures,
    fun other different => (second.others other different).trans (first.others other different),
    fun unknown => second.absent (first.absent unknown)⟩

theorem OnlyTouches.noting (memory : Memory) (call : Call) :
    OnlyTouches sequence memory (memory.noting call) :=
  ⟨rfl, rfl, fun _ _ => rfl, id⟩

/-- A counter that is put for a sequence that is there touches nothing else. -/
theorem OnlyTouches.putting {memory : Memory} {counter : Counter}
    (found : memory.sequences.lookup sequence = some counter) (call : Call) (next : Counter) :
    OnlyTouches sequence memory ((memory.noting call).putting sequence next) := by
  refine ⟨rfl, rfl, fun other different => ?_, fun unknown => ?_⟩
  · rw [lookup_putting, if_neg different]
    rfl
  · rw [found] at unknown
    cases unknown

theorem GoesForward.refl (memory : Memory) : GoesForward sequence memory memory :=
  fun counter found positive => ⟨counter, found, Int.le_refl _, positive⟩

theorem GoesForward.trans (first : GoesForward sequence before between)
    (second : GoesForward sequence between after) : GoesForward sequence before after := by
  intro counter found positive
  obtain ⟨middle, middleFound, up, middlePositive⟩ := first counter found positive
  obtain ⟨later, laterFound, further, laterPositive⟩ := second middle middleFound middlePositive
  exact ⟨later, laterFound, Int.le_trans up further, laterPositive⟩

theorem GoesForward.noting (memory : Memory) (call : Call) :
    GoesForward sequence memory (memory.noting call) :=
  GoesForward.refl memory

theorem KeepsStep.refl (memory : Memory) : KeepsStep sequence memory memory :=
  ⟨rfl, rfl, rfl⟩

theorem KeepsStep.trans (first : KeepsStep sequence before between)
    (second : KeepsStep sequence between after) : KeepsStep sequence before after :=
  ⟨second.failures.trans first.failures, second.stepCalls.trans first.stepCalls,
    second.step.trans first.step⟩

theorem KeepsStep.noting (memory : Memory) {call : Call} (other : call.operation ≠ .setStep) :
    KeepsStep sequence memory (memory.noting call) :=
  ⟨rfl, List.filter_cons_of_neg (by rwa [beq_iff_eq]), rfl⟩

end Relations

/-! ### The operations along the relations -/

section Operations

variable (sequence : String)

theorem onlyTouches_draw : (operations.draw sequence).Moves (OnlyTouches sequence) := by
  intro memory
  rcases draw_cases sequence memory with ⟨fault, failed⟩ | ⟨counter, found, drawn⟩
  · rw [failed]
    exact .noting memory _
  · rw [drawn]
    exact .putting found _ _

theorem onlyTouches_setStep (step : Int) :
    (operations.setStep sequence step).Moves (OnlyTouches sequence) := by
  intro memory
  rcases setStep_cases sequence step memory with ⟨fault, failed, _⟩ | ⟨counter, found, set⟩
  · rw [failed]
    exact .noting memory _
  · rw [set]
    exact .putting found _ _

theorem goesForward_draw : (operations.draw sequence).Moves (GoesForward sequence) := by
  intro memory
  rcases draw_cases sequence memory with ⟨fault, failed⟩ | ⟨counter, found, drawn⟩
  · rw [failed]
    exact .noting memory _
  · rw [drawn]
    intro known same positive
    rw [found] at same
    cases same
    refine ⟨_, (lookup_putting _ _ _ _).trans (if_pos rfl), ?_, positive⟩
    show counter.last ≤ counter.last + counter.step
    omega

theorem goesForward_setStep {step : Int} (positive : 1 ≤ step) :
    (operations.setStep sequence step).Moves (GoesForward sequence) := by
  intro memory
  rcases setStep_cases sequence step memory with ⟨fault, failed, _⟩ | ⟨counter, found, set⟩
  · rw [failed]
    exact .noting memory _
  · rw [set]
    intro known same _
    rw [found] at same
    cases same
    exact ⟨_, (lookup_putting _ _ _ _).trans (if_pos rfl), Int.le_refl _, positive⟩

theorem keepsStep_draw : (operations.draw sequence).Moves (KeepsStep sequence) := by
  intro memory
  rcases draw_cases sequence memory with ⟨fault, failed⟩ | ⟨counter, found, drawn⟩
  · rw [failed]
    exact .noting memory nofun
  · rw [drawn]
    refine ⟨rfl, rfl, ?_⟩
    rw [lookup_putting, if_pos rfl, found]
    rfl

end Operations

/-! ### Setting the step back -/

/-- **The step is set back.** Either no call set a step and it is as before; or the call that was to
set it to a distance failed and it is as before; or it was set to a distance and another call set it
back to one, which that call did unless it was listed to fail. -/
def SetsBack (sequence : String) (before after : Memory) : Prop :=
  KeepsStep sequence before after ∨
    ∃ distance, (after.callsOf .setStep = .setStep sequence distance :: before.callsOf .setStep ∧
        (after.sequences.lookup sequence).map Counter.step =
          (before.sequences.lookup sequence).map Counter.step) ∨
      (after.callsOf .setStep =
          .setStep sequence 1 :: .setStep sequence distance :: before.callsOf .setStep ∧
        ((after.sequences.lookup sequence).map Counter.step = some 1 ∨
          before.fails .setStep ((before.callsOf .setStep).length + 2) = true))

theorem KeepsStep.setsBack {sequence : String} {before between after : Memory}
    (kept : KeepsStep sequence before between) (set : SetsBack sequence between after) :
    SetsBack sequence before after := by
  rcases set with still | ⟨distance, ⟨calls, step⟩ | ⟨calls, back⟩⟩
  · exact .inl (kept.trans still)
  · refine .inr ⟨distance, .inl ⟨?_, step.trans kept.step⟩⟩
    rw [calls, kept.stepCalls]
  · refine .inr ⟨distance, .inr ⟨?_, ?_⟩⟩
    · rw [calls, kept.stepCalls]
    · rw [fails, kept.failures, kept.stepCalls] at back
      exact back

/-- If the step is set back, it is as before or one, unless the call that was to set it back was
made and listed to fail. -/
theorem SetsBack.step {sequence : String} {before after : Memory} {counter later : Counter}
    (set : SetsBack sequence before after) (found : before.sequences.lookup sequence = some counter)
    (there : after.sequences.lookup sequence = some later) :
    later.step = counter.step ∨ later.step = 1 ∨
      ∃ distance, after.callsOf .setStep =
          .setStep sequence 1 :: .setStep sequence distance :: before.callsOf .setStep ∧
        before.fails .setStep ((before.callsOf .setStep).length + 2) = true := by
  rcases set with still | ⟨distance, ⟨_, same⟩ | ⟨calls, back | listed⟩⟩
  · have same := still.step
    rw [there, found] at same
    exact .inl (Option.some.inj same)
  · rw [there, found] at same
    exact .inl (Option.some.inj same)
  · rw [there] at back
    exact .inr (.inl (Option.some.inj back))
  · exact .inr (.inr ⟨distance, calls, listed⟩)

/-- **Moving on by a distance sets the step back**, also when the draw fails. -/
theorem setsBack_advance (sequence : String) (distance : Int) :
    (advance operations sequence distance).Moves (SetsBack sequence) := by
  intro memory
  rw [advance, Session.result_bind]
  rcases setStep_cases sequence distance memory with ⟨fault, failed, _⟩ | ⟨counter, found, set⟩
  · rw [failed]
    exact .inr ⟨distance, .inl ⟨rfl, rfl⟩⟩
  · rw [set]
    refine .inr ⟨distance, .inr ?_⟩
    rw [Session.result_andAlways_state]
    have kept := keepsStep_draw sequence ((memory.noting (.setStep sequence distance)).putting
      sequence { counter with step := distance })
    generalize ((operations.draw sequence).result _).2 = drawn at kept ⊢
    have calls : drawn.callsOf .setStep =
      .setStep sequence distance :: memory.callsOf .setStep := kept.stepCalls
    have listed : drawn.failures = memory.failures := kept.failures
    rcases setStep_cases sequence 1 drawn with ⟨fault, failed, why⟩ | ⟨later, there, back⟩
    · rw [failed]
      refine ⟨congrArg _ calls, .inr ?_⟩
      rcases why with planned | absent
      · rw [fails, listed, calls] at planned
        exact planned
      · have step := kept.step
        rw [absent, lookup_putting, if_pos rfl] at step
        cases step
    · rw [back]
      refine ⟨congrArg _ calls, .inl ?_⟩
      rw [lookup_putting, if_pos rfl]
      rfl

/-! ### The whole of catching up -/

section Whole

variable {sequence name : String} {kept whole : Memory → Memory → Prop}

/-- **Catching up moves along a relation that its parts move along**: the questions and the draw
along one that they keep, and the rest along one that can follow on it. -/
theorem catchUpNamed_moves (still : ∀ memory, kept memory memory)
    (asked : ∀ memory call, call.operation ≠ .setStep → kept memory (memory.noting call))
    (drawn : (operations.draw sequence).Moves kept)
    (advanced : ∀ distance, 0 < distance → (advance operations sequence distance).Moves whole)
    (through : ∀ before between after, kept before between → whole between after →
      whole before after)
    (stopped : ∀ before after, kept before after → whole before after) :
    (catchUpNamed operations sequence name).Moves whole := by
  have question : ∀ {α : Type} (call : Call) (value : Memory → Except Fault α),
      call.operation ≠ .setStep → (serve call fun known => (value known, known)).Moves kept := by
    intro α call value other memory
    rw [serve_state_of_question]
    exact asked memory call other
  have done : ∀ outcome : Option Outcome,
      (pure outcome : Session Memory (Option Outcome)).Moves whole :=
    fun outcome => Session.moves_pure (fun memory => stopped _ _ (still memory)) outcome
  have caught : ∀ table, (catchUp operations sequence table).Moves whole := by
    intro table
    have has : (operations.hasIdentifier table).Moves kept := question _ _ nofun
    have reads : (operations.greatestIdentifier table).Moves kept := question _ _ nofun
    unfold catchUp
    refine has.bind (fun known => ?_) through stopped
    cases known with
    | false => exact done _
    | true =>
      refine reads.bind (fun found => ?_) through stopped
      cases found with
      | none => exact done _
      | some greatest =>
        refine drawn.bind (fun last => ?_) through stopped
        cases stands : lag last greatest with
        | reached | overflow => exact done _
        | behind distance =>
          have positive := (lag_eq_behind_iff.mp stands).1
          exact (advanced distance positive).andThen fun _ => some (Outcome.succeeded sequence)
  have looked : (lookUp operations sequence name).Moves kept := by
    have searched : (operations.tablesStartingWith name).Moves kept := question _ _ nofun
    exact searched.andThen (Lookup.among sequence name)
  unfold catchUpNamed
  refine looked.bind (fun found => ?_) through stopped
  cases found with
  | found table => exact caught table
  | missing => exact done _
  | ambiguous tables => exact done _

theorem onlyTouches_catchUpNamed (sequence name : String) :
    (catchUpNamed operations sequence name).Moves (OnlyTouches sequence) := by
  refine catchUpNamed_moves OnlyTouches.refl (fun memory call _ => .noting memory call)
    (onlyTouches_draw sequence) (fun distance _ => ?_) (fun _ _ _ => OnlyTouches.trans)
    (fun _ _ => id)
  unfold advance
  refine (onlyTouches_setStep sequence distance).bind (fun _ => ?_) (fun _ _ _ => OnlyTouches.trans)
    (fun _ _ => id)
  exact (onlyTouches_draw sequence).andAlways (onlyTouches_setStep sequence 1)
    fun _ _ _ => OnlyTouches.trans

theorem setsBack_catchUpNamed (sequence name : String) :
    (catchUpNamed operations sequence name).Moves (SetsBack sequence) :=
  catchUpNamed_moves KeepsStep.refl (fun memory _ other => .noting memory other)
    (keepsStep_draw sequence) (fun distance _ => setsBack_advance sequence distance)
    (fun _ _ _ => KeepsStep.setsBack) (fun _ _ => .inl)

theorem goesForward_catchUpNamed (sequence name : String) :
    (catchUpNamed operations sequence name).Moves (GoesForward sequence) := by
  refine catchUpNamed_moves GoesForward.refl (fun memory call _ => .noting memory call)
    (goesForward_draw sequence) (fun distance positive => ?_) (fun _ _ _ => GoesForward.trans)
    (fun _ _ => id)
  unfold advance
  refine (goesForward_setStep sequence positive).bind (fun _ => ?_)
    (fun _ _ _ => GoesForward.trans) (fun _ _ => id)
  exact (goesForward_draw sequence).andAlways (goesForward_setStep sequence (Int.le_refl 1))
    fun _ _ _ => GoesForward.trans

end Whole

/-! ### What was done if a value was given -/

section Given

variable {sequence table name : String} {memory after : Memory} {outcome : Option Outcome}

/-- A question that is answered is answered from the memory as it was, but for the note. -/
theorem answered {α : Type} {given : α} (call : Call) (value : Memory → α)
    (asked : (serve call fun known => (.ok (value known), known)).result memory =
      (.ok given, after)) :
    given = value (memory.noting call) ∧ after = memory.noting call := by
  rcases serve_cases call (fun known => (.ok (value known), known)) memory with
    ⟨_, _, failed⟩ | served
  · rw [failed] at asked
    cases asked
  · rw [served] at asked
    cases asked
    exact ⟨rfl, rfl⟩

theorem tablesStartingWith_eq_ok {start : String} {names : List String}
    (asked : (operations.tablesStartingWith start).result memory = (.ok names, after)) :
    names = memory.tablesFrom start ∧ after = memory.noting (.tablesStartingWith start) :=
  answered _ (·.tablesFrom start) asked

theorem hasIdentifier_eq_ok {known : Bool}
    (asked : (operations.hasIdentifier table).result memory = (.ok known, after)) :
    known = (memory.tables.lookup table).any (·.hasIdentifier) ∧
      after = memory.noting (.hasIdentifier table) :=
  answered _ (fun known => (known.tables.lookup table).any TableFacts.hasIdentifier) asked

theorem greatestIdentifier_eq_ok {found : Option Int}
    (asked : (operations.greatestIdentifier table).result memory = (.ok found, after)) :
    found = (memory.tables.lookup table).bind (·.greatest) ∧
      after = memory.noting (.greatestIdentifier table) :=
  answered _ (fun known => (known.tables.lookup table).bind TableFacts.greatest) asked

theorem draw_eq_ok {last : Int}
    (drawn : (operations.draw sequence).result memory = (.ok last, after)) :
    ∃ counter, memory.sequences.lookup sequence = some counter ∧
      last = counter.last + counter.step ∧
      after.sequences.lookup sequence = some ⟨last, counter.step⟩ := by
  rcases draw_cases sequence memory with ⟨_, failed⟩ | ⟨counter, found, moved⟩
  · rw [failed] at drawn
    cases drawn
  · rw [moved] at drawn
    cases drawn
    exact ⟨counter, found, rfl, (lookup_putting _ _ _ _).trans (if_pos rfl)⟩

theorem setStep_eq_ok {step : Int} {given : Unit}
    (set : (operations.setStep sequence step).result memory = (.ok given, after)) :
    ∃ counter, memory.sequences.lookup sequence = some counter ∧
      after.sequences.lookup sequence = some ⟨counter.last, step⟩ := by
  rcases setStep_cases sequence step memory with ⟨_, failed, _⟩ | ⟨counter, found, changed⟩
  · rw [failed] at set
    cases set
  · rw [changed] at set
    cases set
    exact ⟨counter, found, (lookup_putting _ _ _ _).trans (if_pos rfl)⟩

/-- **Moving on by a distance**, if nothing failed: the last number is another by the distance and
the step is one. -/
theorem advance_eq_ok {distance last : Int}
    (advanced : (advance operations sequence distance).result memory = (.ok last, after)) :
    ∃ counter, memory.sequences.lookup sequence = some counter ∧
      last = counter.last + distance ∧ after.sequences.lookup sequence = some ⟨last, 1⟩ := by
  unfold advance at advanced
  obtain ⟨_, widened, wide, rest⟩ := Session.result_bind_eq_ok_iff.mp advanced
  obtain ⟨drawn, one, back⟩ := Session.result_andAlways_eq_ok_iff.mp rest
  obtain ⟨counter, found, first⟩ := setStep_eq_ok wide
  obtain ⟨_, there, rfl, second⟩ := draw_eq_ok one
  obtain ⟨_, known, third⟩ := setStep_eq_ok back
  rw [first] at there
  cases there
  rw [second] at known
  cases known
  exact ⟨counter, found, rfl, third⟩

/-! ### Tables within reach -/

/-- **Every table is within reach of a sequence**: the distance from the number that is drawn next
to the greatest identifier fits 64 bits. -/
def IsWithinReach (memory : Memory) (sequence : String) : Prop :=
  ∀ counter table greatest, memory.sequences.lookup sequence = some counter →
    (memory.tables.lookup table).bind TableFacts.greatest = some greatest →
      greatest - (counter.last + counter.step) ≤ Number.maxInt64

/-! ### Outcomes -/

/-- No sequence has changed and none was drawn from. -/
structure LeavesAlone (before after : Memory) : Prop where
  sequences : after.sequences = before.sequences
  draws : after.callsOf .draw = before.callsOf .draw

/-- **The sequence is ahead of the table**: its next number is greater than the greatest
identifier. -/
def IsAhead (memory : Memory) (sequence table : String) : Prop :=
  ∃ greatest counter, memory.tables.lookup table = some ⟨true, some greatest⟩ ∧
    memory.sequences.lookup sequence = some counter ∧ greatest < counter.last + counter.step

/-- A sequence with a positive step that has been drawn from, and moved on if it was behind, is
ahead; the distance does not overflow. -/
theorem exists_ahead {greatest last : Int} {drawn : Memory}
    (one : (operations.draw sequence).result memory = (.ok last, drawn))
    (rest : (match lag last greatest with
      | .reached => pure (some (.succeeded sequence))
      | .overflow => pure none
      | .behind distance => do
        let _ ← advance operations sequence distance
        return some (.succeeded sequence) : Session Memory (Option Outcome)).result drawn =
          (.ok outcome, after))
    (positive : ∀ counter, memory.sequences.lookup sequence = some counter → 1 ≤ counter.step)
    (fits : ∀ counter, memory.sequences.lookup sequence = some counter →
      greatest - (counter.last + counter.step) ≤ Number.maxInt64) :
    outcome = some (.succeeded sequence) ∧
      ∃ counter, after.sequences.lookup sequence = some counter ∧
        greatest < counter.last + counter.step := by
  obtain ⟨before, found, rfl, there⟩ := draw_eq_ok one
  have step := positive before found
  cases stands : lag (before.last + before.step) greatest with
  | reached =>
    rw [stands] at rest
    cases rest
    refine ⟨rfl, _, there, ?_⟩
    have reached := lag_eq_reached_iff.mp stands
    show greatest < before.last + before.step + before.step
    omega
  | overflow => exact absurd (fits before found) (Int.not_le.mpr (lag_eq_overflow_iff.mp stands))
  | behind distance =>
    rw [stands] at rest
    obtain ⟨_, moved, advanced, rest⟩ := Session.result_bind_eq_ok_iff.mp rest
    cases rest
    obtain ⟨counter, known, rfl, later⟩ := advance_eq_ok advanced
    rw [there] at known
    cases known
    refine ⟨rfl, _, later, ?_⟩
    obtain ⟨_, _, leads⟩ := lag_eq_behind_iff.mp stands
    show greatest < before.last + before.step + distance + 1
    omega

/-- **Catching up with a table** skips it and leaves everything alone, or ends ahead of it. -/
theorem catchUp_eq_ok
    (ran : (catchUp operations sequence table).result memory = (.ok outcome, after))
    (same : after.tables = memory.tables)
    (positive : ∀ counter, memory.sequences.lookup sequence = some counter → 1 ≤ counter.step)
    (near : memory.IsWithinReach sequence) :
    ((∃ reason, outcome = some (.skipped sequence reason)) ∧ LeavesAlone memory after) ∨
      (outcome = some (.succeeded sequence) ∧ IsAhead after sequence table) := by
  unfold catchUp at ran
  obtain ⟨known, _, first, ran⟩ := Session.result_bind_eq_ok_iff.mp ran
  obtain ⟨has, rfl⟩ := hasIdentifier_eq_ok first
  cases known with
  | false =>
    cases ran
    exact .inl ⟨⟨_, rfl⟩, rfl, rfl⟩
  | true =>
    obtain ⟨found, _, second, ran⟩ := Session.result_bind_eq_ok_iff.mp ran
    obtain ⟨reads, rfl⟩ := greatestIdentifier_eq_ok second
    cases found with
    | none =>
      cases ran
      exact .inl ⟨⟨_, rfl⟩, rfl, rfl⟩
    | some greatest =>
      obtain ⟨last, drawn, third, ran⟩ := Session.result_bind_eq_ok_iff.mp ran
      obtain ⟨rfl, counter, there, less⟩ := exists_ahead third ran positive
        fun counter found => near counter table greatest found reads.symm
      refine .inr ⟨rfl, greatest, counter, ?_, there, less⟩
      rw [same]
      change true = (memory.tables.lookup table).any _ at has
      change some greatest = (memory.tables.lookup table).bind _ at reads
      rcases facts : memory.tables.lookup table with _ | ⟨column, top⟩
      · rw [facts] at reads
        cases reads
      · rw [facts] at has reads
        cases has
        cases reads
        rfl

/-- **Catching up with the table of a name** skips it and leaves everything alone, or ends ahead of
the table that was found for the name. -/
theorem catchUpNamed_eq_ok
    (ran : (catchUpNamed operations sequence name).result memory = (.ok outcome, after))
    (positive : ∀ counter, memory.sequences.lookup sequence = some counter → 1 ≤ counter.step)
    (near : memory.IsWithinReach sequence) :
    ((∃ reason, outcome = some (.skipped sequence reason)) ∧ LeavesAlone memory after) ∨
      (outcome = some (.succeeded sequence) ∧
        ∃ table, Lookup.among sequence name (memory.tablesFrom name) = .found table ∧
          IsAhead after sequence table) := by
  have touches := onlyTouches_catchUpNamed sequence name memory
  rw [ran] at touches
  unfold catchUpNamed lookUp at ran
  obtain ⟨found, _, looked, ran⟩ := Session.result_bind_eq_ok_iff.mp ran
  obtain ⟨names, _, asked, given⟩ := Session.result_bind_eq_ok_iff.mp looked
  obtain ⟨rfl, rfl⟩ := tablesStartingWith_eq_ok asked
  cases given
  cases shape : Lookup.among sequence name (memory.tablesFrom name) with
  | found table =>
    rw [shape] at ran
    rcases catchUp_eq_ok ran touches.tables positive near with ⟨skipped, same, draws⟩ | ⟨done, ahead⟩
    · exact .inl ⟨skipped, same, draws⟩
    · exact .inr ⟨done, table, rfl, ahead⟩
  | missing =>
    rw [shape] at ran
    cases ran
    exact .inl ⟨⟨_, rfl⟩, rfl, rfl⟩
  | ambiguous tables =>
    rw [shape] at ran
    cases ran
    exact .inl ⟨⟨_, rfl⟩, rfl, rfl⟩

end Given

/-! ### A sequence that is caught up -/

/-- **What catching a sequence up has done**, whatever failed.

The table that a sequence has got ahead of is the one that was found for it. The step is as before
or one, unless the call that was to set it back was made and listed to fail. -/
structure IsSynchronized (sequence : String) (before : Memory) (run : Outcome × Memory) : Prop where
  touches : OnlyTouches sequence before run.2
  skipped : ∀ named reason, run.1 = .skipped named reason → LeavesAlone before run.2
  succeeded : ∀ named, run.1 = .succeeded named →
    ∃ name table, table? sequence = some name ∧
      Lookup.among sequence name (before.tablesFrom name) = .found table ∧
        IsAhead run.2 sequence table
  forward : ∀ counter, before.sequences.lookup sequence = some counter →
    ∃ later, run.2.sequences.lookup sequence = some later ∧ counter.last ≤ later.last
  step : ∀ counter later, before.sequences.lookup sequence = some counter →
    run.2.sequences.lookup sequence = some later →
      later.step = counter.step ∨ later.step = 1 ∨
        ∃ distance, run.2.callsOf .setStep =
            .setStep sequence 1 :: .setStep sequence distance :: before.callsOf .setStep ∧
          before.fails .setStep ((before.callsOf .setStep).length + 2) = true

/-- A sequence that no call was made for is as it should be. -/
theorem isSynchronized_skipped (sequence reason : String) (memory : Memory) :
    IsSynchronized sequence memory (.skipped sequence reason, memory) where
  touches := .refl memory
  skipped := fun _ _ _ => ⟨rfl, rfl⟩
  succeeded := nofun
  forward := fun counter found => ⟨counter, found, Int.le_refl _⟩
  step := by
    intro counter later found same
    rw [found] at same
    cases same
    exact .inl rfl

/-- **Catching up keeps a sequence in order**, for every state of the destination whose tables are
within reach, and all the calls that may fail: it does not crash, nothing else is touched, a sequence
that is skipped is not drawn from, one that is caught up is ahead of its table, no number is given
twice, and the step is set back. -/
theorem synchronize_isSynchronized (sequence : String) (memory : Memory)
    (positive : ∀ counter, memory.sequences.lookup sequence = some counter → 1 ≤ counter.step)
    (near : memory.IsWithinReach sequence) :
    ∃ outcome after, (synchronize operations sequence).run memory = (some outcome, after) ∧
      IsSynchronized sequence memory (outcome, after) := by
  cases named : table? sequence with
  | none =>
    unfold synchronize
    rw [named]
    exact ⟨_, _, rfl, isSynchronized_skipped sequence _ memory⟩
  | some name =>
    rw [run_synchronize named]
    have touches := onlyTouches_catchUpNamed sequence name memory
    have goes := goesForward_catchUpNamed sequence name memory
    have back := setsBack_catchUpNamed sequence name memory
    rcases ran : (catchUpNamed operations sequence name).result memory with ⟨given, after⟩
    rw [ran] at touches goes back
    have forward : ∀ counter, memory.sequences.lookup sequence = some counter →
        ∃ later, after.sequences.lookup sequence = some later ∧ counter.last ≤ later.last := by
      intro counter found
      obtain ⟨later, there, up, _⟩ := goes counter found (positive counter found)
      exact ⟨later, there, up⟩
    cases given with
    | error fault =>
      exact ⟨_, after, rfl, touches, nofun, nofun, forward, fun _ _ => back.step⟩
    | ok outcome =>
      rcases catchUpNamed_eq_ok ran positive near with
        ⟨⟨reason, rfl⟩, alone⟩ | ⟨rfl, table, found, ahead⟩
      · exact ⟨_, after, rfl, touches, fun _ _ _ => alone, nofun, forward, fun _ _ => back.step⟩
      · exact ⟨_, after, rfl, touches, nofun, fun _ _ => ⟨name, table, named, found, ahead⟩, forward,
          fun _ _ => back.step⟩

/-- A destination whose second draw is going to fail. -/
def contended : Memory where
  tables := [("USERS", ⟨true, some 57⟩), ("ORDERS", ⟨true, some 9⟩)]
  sequences := [("SEQ_ORDERS", ⟨3, 1⟩), ("SEQ_USERS", ⟨40, 5⟩)]
  calls := []
  failures := [⟨.draw, 2, "the sequence is locked"⟩]
  answers := []

/-- The draw that was to move the sequence on fails, and the step is set back all the same. -/
theorem synchronize_isSynchronized_contended :
    (∀ counter, contended.sequences.lookup "SEQ_USERS" = some counter → 1 ≤ counter.step) ∧
      contended.IsWithinReach "SEQ_USERS" ∧
      (∃ outcome after, (synchronize operations "SEQ_USERS").run contended = (some outcome, after) ∧
        IsSynchronized "SEQ_USERS" contended (outcome, after)) ∧
      ((synchronize operations "SEQ_USERS").run contended).2.sequences =
        [("SEQ_ORDERS", ⟨3, 1⟩), ("SEQ_USERS", ⟨45, 1⟩)] := by
  have positive : ∀ counter, contended.sequences.lookup "SEQ_USERS" = some counter →
      1 ≤ counter.step := by
    intro counter found
    cases found
    decide
  have near : contended.IsWithinReach "SEQ_USERS" := by
    intro counter table greatest found reads
    cases found
    obtain ⟨facts, listed, top⟩ := Option.bind_eq_some_iff.mp reads
    have all : ∀ entry ∈ contended.tables, ∀ top ∈ entry.2.greatest,
        top - (40 + 5) ≤ Number.maxInt64 := by decide
    exact all _ (Keyed.mem_of_lookup listed) greatest top
  exact ⟨positive, near, synchronize_isSynchronized "SEQ_USERS" contended positive near,
    by decide +kernel⟩

end Memory

end SchemaFerry.Sequences
