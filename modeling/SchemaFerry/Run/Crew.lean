/-
**A crew of bounded size.**

Items wait in order for one of a limited number of permits. `start` gives the next item a permit,
`finish` takes the result of an item at work, whose permit is free again; a crash of the work is a
result too. `runBounded` works items off, the first one at work first, and keeps the greatest number
that were at work at one time.

* `start_cases`, `advance_cases`, `finish_cases`: what each step does, which is to change one slot;
* `weigh_set`: what slots weigh changes by what one of them changes.
-/

import SchemaFerry.Fault

namespace SchemaFerry.Run

/-- How the work on an item ended. -/
inductive Ending (β : Type) where
  | returned (result : Except Fault β)
  | crashed (text : String)

/-- The result of an ending; a crash is a fault of the task. -/
def Ending.result {β : Type} : Ending β → Except Fault β
  | returned result => result
  | crashed text => .error (.task text)

/-- Where an item stands: it waits for a permit, is at work, or is done. -/
inductive Standing (β : Type) where
  | waiting
  | working
  | finished (result : Except Fault β)

/-- An item and where it stands. -/
structure Slot (α β : Type) where
  item : α
  standing : Standing β

namespace Slot

variable {α β : Type}

/-- A slot whose item waits. -/
def waiting (item : α) : Slot α β :=
  ⟨item, .waiting⟩

/-- A slot whose item is at work. -/
def working (item : α) : Slot α β :=
  ⟨item, .working⟩

/-- A slot whose item is done. -/
def finished (item : α) (result : Except Fault β) : Slot α β :=
  ⟨item, .finished result⟩

/-- Whether the item is at work. -/
def isWorking (slot : Slot α β) : Bool :=
  match slot.standing with
  | .working => true
  | _ => false

/-- The result of an item that is done. -/
def result? (slot : Slot α β) : Option (Except Fault β) :=
  match slot.standing with
  | .finished result => some result
  | _ => none

/-- How many steps an item needs at most. -/
def stepsLeft (slot : Slot α β) : Nat :=
  match slot.standing with
  | .waiting => 2
  | .working => 1
  | .finished _ => 0

end Slot

/-- The permits that are free, and the slots of all items in their order. -/
structure Crew (α β : Type) where
  free : Nat
  slots : List (Slot α β)

namespace Crew

variable {α β : Type}

/-- A crew before its first item; there is at least one permit. -/
def ofItems (limit : Nat) (items : List α) : Crew α β :=
  ⟨max limit 1, items.map .waiting⟩

/-- The first item that waits, with its position. -/
def nextIn : List (Slot α β) → Option (Nat × α)
  | [] => none
  | ⟨item, .waiting⟩ :: _ => some (0, item)
  | _ :: rest => (nextIn rest).map fun next => (next.1 + 1, next.2)

/-- The first item at work, with its position. -/
def firstIn : List (Slot α β) → Option (Nat × α)
  | [] => none
  | ⟨item, .working⟩ :: _ => some (0, item)
  | _ :: rest => (firstIn rest).map fun first => (first.1 + 1, first.2)

/-- The item at work at a position. -/
def working? (crew : Crew α β) (position : Nat) : Option α :=
  match crew.slots[position]? with
  | some ⟨item, .working⟩ => some item
  | _ => none

/-- How many items are at work. -/
def atWork (crew : Crew α β) : Nat :=
  crew.slots.countP Slot.isWorking

/-- The crew with another slot at a position. -/
def put (crew : Crew α β) (position : Nat) (slot : Slot α β) : Crew α β :=
  { crew with slots := crew.slots.set position slot }

/-- Gives the next item a permit, if one is free; says which item that is. -/
def start (crew : Crew α β) : Option (α × Crew α β) :=
  match nextIn crew.slots with
  | none => none
  | some (position, item) =>
    if 0 < crew.free then
      some (item, { crew.put position (.working item) with free := crew.free - 1 })
    else none

/-- Changes the item at work at a position, which stays at work. -/
def advance (crew : Crew α β) (position : Nat) (item : α) : Option (Crew α β) :=
  match crew.working? position with
  | none => none
  | some _ => some (crew.put position (.working item))

/-- Takes the result of the item at work at a position, whose permit is free again. -/
def finish (crew : Crew α β) (position : Nat) (ending : Ending β) : Option (Crew α β) :=
  match crew.working? position with
  | none => none
  | some item =>
    some { crew.put position (.finished item ending.result) with free := crew.free + 1 }

/-- The results of the items that are done, in order. -/
def results (crew : Crew α β) : List (Except Fault β) :=
  crew.slots.filterMap Slot.result?

/-- Whether all items are done. -/
def isDone (crew : Crew α β) : Bool :=
  crew.slots.all (·.result?.isSome)

/-- What slots weigh together. -/
def weigh (weight : Slot α β → Nat) : List (Slot α β) → Nat
  | [] => 0
  | slot :: rest => weight slot + weigh weight rest

/-- How many steps are left at most. -/
def stepsLeft (crew : Crew α β) : Nat :=
  weigh Slot.stepsLeft crew.slots

/-! ### What a step does -/

theorem getElem?_of_nextIn {slots : List (Slot α β)} {position : Nat} {item : α}
    (next : nextIn slots = some (position, item)) : slots[position]? = some (.waiting item) := by
  induction slots generalizing position with
  | nil => cases next
  | cons slot rest hypothesis =>
    obtain ⟨held, standing⟩ := slot
    cases standing with
    | waiting => cases next; rfl
    | working | finished =>
      obtain ⟨⟨earlier, _⟩, found, shape⟩ := Option.map_eq_some_iff.mp next
      cases shape
      exact hypothesis found

theorem getElem?_of_firstIn {slots : List (Slot α β)} {position : Nat} {item : α}
    (first : firstIn slots = some (position, item)) : slots[position]? = some (.working item) := by
  induction slots generalizing position with
  | nil => cases first
  | cons slot rest hypothesis =>
    obtain ⟨held, standing⟩ := slot
    cases standing with
    | working => cases first; rfl
    | waiting | finished =>
      obtain ⟨⟨earlier, _⟩, found, shape⟩ := Option.map_eq_some_iff.mp first
      cases shape
      exact hypothesis found

theorem working?_eq_some_iff {crew : Crew α β} {position : Nat} {item : α} :
    crew.working? position = some item ↔ crew.slots[position]? = some (.working item) := by
  unfold working?
  split
  · next held shape => simp [shape, Slot.working]
  · next other =>
    refine ⟨nofun, fun shape => absurd shape (other item)⟩

/-- **A start** gives a permit that was free to the first item that waits. -/
theorem start_cases {crew after : Crew α β} {item : α}
    (started : crew.start = some (item, after)) :
    ∃ position, nextIn crew.slots = some (position, item) ∧ 0 < crew.free ∧
      after = { crew.put position (.working item) with free := crew.free - 1 } := by
  unfold start at started
  split at started
  · cases started
  · next position next shape =>
    split at started
    · next free =>
      cases started
      exact ⟨position, shape, free, rfl⟩
    · cases started

/-- **Work on an item** changes it and nothing else. -/
theorem advance_cases {crew after : Crew α β} {position : Nat} {item : α}
    (advanced : crew.advance position item = some after) :
    ∃ before, crew.working? position = some before ∧ after = crew.put position (.working item) := by
  unfold advance at advanced
  split at advanced
  · cases advanced
  · next before shape =>
    cases advanced
    exact ⟨before, shape, rfl⟩

/-- **A finish** takes the result of an item at work and frees its permit. -/
theorem finish_cases {crew after : Crew α β} {position : Nat} {ending : Ending β}
    (finished : crew.finish position ending = some after) :
    ∃ item, crew.working? position = some item ∧
      after = { crew.put position (.finished item ending.result) with free := crew.free + 1 } := by
  unfold finish at finished
  split at finished
  · cases finished
  · next item shape =>
    cases finished
    exact ⟨item, shape, rfl⟩

/-! ### What is left -/

/-- What slots weigh changes with one of them by what this one changes. -/
theorem weigh_set {slots : List (Slot α β)} {position : Nat} {slot : Slot α β}
    (weight : Slot α β → Nat) (found : slots[position]? = some slot) (other : Slot α β) :
    weigh weight (slots.set position other) + weight slot = weigh weight slots + weight other := by
  induction slots generalizing position with
  | nil => cases found
  | cons first rest hypothesis =>
    cases position with
    | zero =>
      cases found
      simp only [List.set_cons_zero, weigh]
      omega
    | succ position =>
      have later := hypothesis found
      simp only [List.set_cons_succ, weigh]
      omega

/-- A start brings a crew closer to its end. -/
theorem stepsLeft_start {crew after : Crew α β} {item : α}
    (started : crew.start = some (item, after)) : after.stepsLeft < crew.stepsLeft := by
  obtain ⟨position, next, _, rfl⟩ := start_cases started
  have change := weigh_set Slot.stepsLeft (getElem?_of_nextIn next) (.working item)
  simp only [stepsLeft, put, Slot.waiting, Slot.working, Slot.stepsLeft] at change ⊢
  omega

/-- A finish brings a crew closer to its end. -/
theorem stepsLeft_finish {crew after : Crew α β} {position : Nat} {ending : Ending β}
    (finished : crew.finish position ending = some after) : after.stepsLeft < crew.stepsLeft := by
  obtain ⟨item, found, rfl⟩ := finish_cases finished
  have change := weigh_set Slot.stepsLeft (working?_eq_some_iff.mp found)
    (.finished item ending.result)
  simp only [stepsLeft, put, Slot.finished, Slot.working, Slot.stepsLeft] at change ⊢
  omega

/-- Works items off: a free permit is given out at once, and else the first item at work finishes.
Keeps the greatest number at work. -/
def workOff (work : α → Ending β) (peak : Nat) (crew : Crew α β) : Crew α β × Nat :=
  match _started : crew.start with
  | some (_, after) => workOff work (max peak after.atWork) after
  | none =>
    match firstIn crew.slots with
    | none => (crew, peak)
    | some (position, item) =>
      match _finished : crew.finish position (work item) with
      | some after => workOff work peak after
      | none => (crew, peak)
termination_by crew.stepsLeft
decreasing_by
  · exact stepsLeft_start ‹_›
  · exact stepsLeft_finish ‹_›

end Crew

/-- Works items with a limit on how many are at work at one time: their results in order, and the
greatest number at work. -/
def runBounded {α β : Type} (limit : Nat) (work : α → Ending β) (items : List α) :
    List (Except Fault β) × Nat :=
  let (crew, peak) := (Crew.ofItems limit items).workOff work 0
  (crew.results, peak)

end SchemaFerry.Run
