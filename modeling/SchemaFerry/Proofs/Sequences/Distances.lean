/-
**The distance to the greatest identifier.**

A sequence that is behind is moved on by the difference of two numbers of 64 bits, which has to fit
64 bits as well. It does not if the sequence stands below zero and the identifiers are great enough.
The distance is meant never to overflow, to be positive and to lead from the last number to the
greatest identifier (`IsExact`).

* `Memory.catchUp_ends` — a sequence that is caught up without a fault stands on the greatest
  identifier, or on the number drawn if that is greater; or the work crashed with that number drawn;
* **`lag_isMeasured`** — the distance is exact, and catching up does not crash, iff the difference
  fits 64 bits;
* `lag_overflows` — from -1 to the greatest number of 64 bits, the distance overflows.
-/

import SchemaFerry.Proofs.Sequences.Synchronizing

namespace SchemaFerry.Sequences

open SchemaFerry.Number SchemaFerry.Report

/-! ### Distances -/

/-- **How a sequence stands to the greatest identifier is told exactly**: no distance overflows, there
is none exactly if the sequence has reached the identifier, and else it is a positive number of 64
bits that leads there. -/
structure IsExact (last greatest : Int) : Prop where
  noOverflow : lag last greatest ≠ .overflow
  reached_iff : lag last greatest = .reached ↔ greatest ≤ last
  leads : ∀ distance, lag last greatest = .behind distance →
    0 < distance ∧ FitsWord distance ∧ last + distance = greatest

/-- **The distance is exact iff it fits.** -/
theorem isExact_iff {last greatest : Int} :
    IsExact last greatest ↔ greatest - last ≤ maxInt64 := by
  refine ⟨fun exact => Int.not_lt.mp fun beyond => ?_, fun fits => ?_⟩
  · exact exact.noOverflow (lag_eq_overflow_iff.mpr beyond)
  · refine ⟨fun overflow => ?_, lag_eq_reached_iff, fun _ => lag_eq_behind_iff.mp⟩
    exact absurd fits (Int.not_le.mpr (lag_eq_overflow_iff.mp overflow))

namespace Memory

section Stands

variable {sequence table : String} {last greatest : Int} {memory : Memory}

/-- A sequence whose next number is given, and a table whose greatest identifier is. -/
structure Stands (memory : Memory) (sequence table : String) (last greatest : Int) : Prop where
  next : ∃ counter, memory.sequences.lookup sequence = some counter ∧
    counter.last + counter.step = last
  top : memory.tables.lookup table = some ⟨true, some greatest⟩

/-- **How catching up ended**: the distance overflowed and the work crashed with the next number
drawn, or the sequence stands on that number or on the greatest identifier if it is greater. -/
inductive Ends (sequence : String) (last greatest : Int) (after : Memory) :
    Option Outcome → Prop
  | crashed (beyond : maxInt64 < greatest - last)
    (drawn : (after.sequences.lookup sequence).map Counter.last = some last) :
    Ends sequence last greatest after none
  | caught (fits : greatest - last ≤ maxInt64)
    (lands : (after.sequences.lookup sequence).map Counter.last = some (max last greatest)) :
    Ends sequence last greatest after (some (.succeeded sequence))

/-- **Catching up that gives a value** ends on the greater of the number drawn and the greatest
identifier, unless the distance between them overflows. -/
theorem catchUp_ends {outcome : Option Outcome} {after : Memory}
    (stands : memory.Stands sequence table last greatest)
    (ran : (catchUp operations sequence table).result memory = (.ok outcome, after)) :
    Ends sequence last greatest after outcome := by
  obtain ⟨⟨counter, there, rfl⟩, top⟩ := stands
  unfold catchUp at ran
  obtain ⟨has, _, first, ran⟩ := Session.result_bind_eq_ok_iff.mp ran
  obtain ⟨known, rfl⟩ := hasIdentifier_eq_ok first
  obtain rfl : has = true := by
    rw [known, top]
    rfl
  obtain ⟨found, _, second, ran⟩ := Session.result_bind_eq_ok_iff.mp ran
  obtain ⟨reads, rfl⟩ := greatestIdentifier_eq_ok second
  obtain rfl : found = some greatest := reads.trans (congrArg (Option.bind · TableFacts.greatest) top)
  obtain ⟨last, drawn, third, ran⟩ := Session.result_bind_eq_ok_iff.mp ran
  obtain ⟨_, same, rfl, later⟩ := draw_eq_ok third
  cases there.symm.trans same
  cases how : lag (counter.last + counter.step) greatest with
  | reached =>
    rw [how] at ran
    cases ran
    have reached := lag_eq_reached_iff.mp how
    refine .caught (Int.le_trans (by omega) (by decide : (0 : Int) ≤ maxInt64)) ?_
    rw [later, Int.max_eq_left reached]
    rfl
  | overflow =>
    rw [how] at ran
    cases ran
    refine .crashed (lag_eq_overflow_iff.mp how) ?_
    rw [later]
    rfl
  | behind distance =>
    rw [how] at ran
    obtain ⟨_, _, moved, ran⟩ := Session.result_bind_eq_ok_iff.mp ran
    cases ran
    obtain ⟨_, known, rfl, lands⟩ := advance_eq_ok moved
    cases later.symm.trans known
    obtain ⟨positive, fits, leads⟩ := lag_eq_behind_iff.mp how
    refine .caught (Int.le_trans (by omega) fits.2) ?_
    rw [lands, Int.max_eq_right (by omega)]
    exact congrArg some leads

end Stands

/-! ### Catching up where nothing fails -/

section Unfailing

variable {sequence table : String} {last greatest : Int} {memory : Memory} {counter : Counter}

theorem serve_of_unfailing {α : Type} (unfailing : memory.failures = []) (call : Call)
    (answer : Memory → Except Fault α × Memory) :
    (serve call answer).result memory = answer (memory.noting call) := by
  rcases serve_cases call answer memory with ⟨listed, _⟩ | served
  · rw [fails, unfailing] at listed
    cases listed
  · exact served

/-- A sequence that is there is changed, and no call is going to fail after that either. -/
theorem change_of_unfailing {α : Type} (unfailing : memory.failures = [])
    (found : memory.sequences.lookup sequence = some counter) (call : Call)
    (step : Counter → Counter) (answer : Counter → α) :
    ∃ after, (serve call (change sequence step answer)).result memory =
        (.ok (answer (step counter)), after) ∧
      after.failures = [] ∧ after.sequences.lookup sequence = some (step counter) := by
  have there : (memory.noting call).counter sequence = .ok counter := by
    simp only [Memory.counter, noting, found]
  refine ⟨(memory.noting call).putting sequence (step counter), ?_, unfailing, ?_⟩
  · rw [serve_of_unfailing unfailing, change, there]
    rfl
  · rw [lookup_putting, if_pos rfl]

/-- **A sequence is moved on by a distance** if no call is listed to fail. -/
theorem advance_of_unfailing (unfailing : memory.failures = [])
    (found : memory.sequences.lookup sequence = some counter) (distance : Int) :
    ∃ after, (advance operations sequence distance).result memory =
      (.ok (counter.last + distance), after) := by
  obtain ⟨widened, wide, still, there⟩ := change_of_unfailing unfailing found
    (.setStep sequence distance) (fun known => { known with step := distance }) fun _ => ()
  obtain ⟨drawn, one, still, there⟩ := change_of_unfailing still there (.draw sequence)
    (fun known => { known with last := known.last + known.step }) Counter.last
  obtain ⟨after, back, _, _⟩ := change_of_unfailing still there (.setStep sequence 1)
    (fun known => { known with step := 1 }) fun _ => ()
  refine ⟨after, Session.result_bind_eq_ok_iff.mpr ⟨(), widened, wide, ?_⟩⟩
  exact Session.result_andAlways_eq_ok_iff.mpr ⟨drawn, one, back⟩

/-- **Catching up gives a value** if no call is listed to fail. -/
theorem catchUp_of_unfailing (unfailing : memory.failures = [])
    (stands : memory.Stands sequence table last greatest) :
    ∃ outcome after, (catchUp operations sequence table).result memory = (.ok outcome, after) := by
  obtain ⟨⟨counter, there, rfl⟩, top⟩ := stands
  have asks : (operations.hasIdentifier table).result memory =
      (.ok true, memory.noting (.hasIdentifier table)) := by
    refine (serve_of_unfailing unfailing _ _).trans ?_
    change (Except.ok ((memory.tables.lookup table).any TableFacts.hasIdentifier), _) = _
    rw [top]
    rfl
  have reads : (operations.greatestIdentifier table).result (memory.noting (.hasIdentifier table)) =
      (.ok (some greatest),
        (memory.noting (.hasIdentifier table)).noting (.greatestIdentifier table)) := by
    refine (serve_of_unfailing (by exact unfailing) _ _).trans ?_
    change (Except.ok ((memory.tables.lookup table).bind TableFacts.greatest), _) = _
    rw [top]
    rfl
  have still : ((memory.noting (.hasIdentifier table)).noting (.greatestIdentifier table)).failures =
    [] := unfailing
  obtain ⟨drawn, one, still, known⟩ := change_of_unfailing still there (.draw sequence)
    (fun held => { held with last := held.last + held.step }) Counter.last
  have draws : (operations.draw sequence).result
      ((memory.noting (.hasIdentifier table)).noting (.greatestIdentifier table)) =
        (.ok (counter.last + counter.step), drawn) := one
  simp only [catchUp, Session.result_bind, asks, reads, draws, Bool.not_true, Bool.false_eq_true,
    if_false]
  cases lag (counter.last + counter.step) greatest with
  | reached | overflow => exact ⟨_, _, rfl⟩
  | behind distance =>
    obtain ⟨after, moved⟩ := advance_of_unfailing still known distance
    exact ⟨_, after, Session.result_bind_eq_ok_iff.mpr ⟨_, after, moved, rfl⟩⟩

end Unfailing

end Memory

/-! ### Distances and what is done with them -/

/-- **How a sequence stands to the greatest identifier**, and how catching it up with the table of
that identifier ends, where the number drawn first is the given one. -/
structure IsMeasured (last greatest : Int) : Prop where
  reached_iff : lag last greatest = .reached ↔ greatest ≤ last
  behind_iff : ∀ distance, lag last greatest = .behind distance ↔
    0 < distance ∧ FitsWord distance ∧ last + distance = greatest
  overflow_iff : lag last greatest = .overflow ↔ maxInt64 < greatest - last
  exact_iff : IsExact last greatest ↔ greatest - last ≤ maxInt64
  ends : ∀ (sequence table : String) (memory after : Memory) (outcome : Option Outcome),
    memory.Stands sequence table last greatest →
      (catchUp Memory.operations sequence table).result memory = (.ok outcome, after) →
        Memory.Ends sequence last greatest after outcome
  unfailing : ∀ (sequence table : String) (memory : Memory), memory.failures = [] →
    memory.Stands sequence table last greatest →
      ∃ outcome after,
        (catchUp Memory.operations sequence table).result memory = (.ok outcome, after)

/-- **A sequence lands on the greatest identifier iff the distance fits 64 bits**; if it does not,
catching up crashes. -/
theorem lag_isMeasured (last greatest : Int) : IsMeasured last greatest where
  reached_iff := lag_eq_reached_iff
  behind_iff := fun _ => lag_eq_behind_iff
  overflow_iff := lag_eq_overflow_iff
  exact_iff := isExact_iff
  ends := fun _ _ _ _ _ => Memory.catchUp_ends
  unfailing := fun _ _ _ => Memory.catchUp_of_unfailing

/-- **A distance that overflows**: from -1 to the greatest number of 64 bits. -/
theorem lag_overflows : FitsWord (-1) ∧ FitsWord maxInt64 ∧ lag (-1) maxInt64 = .overflow ∧
    ¬ IsExact (-1) maxInt64 := by
  have overflow : lag (-1) maxInt64 = .overflow := by decide
  exact ⟨by decide, by decide, overflow, fun exact => exact.noOverflow overflow⟩

end SchemaFerry.Sequences
