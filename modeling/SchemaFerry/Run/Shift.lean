/-
**A shift of a crew.**

A caller asks a semaphore for a permit for each of its items in turn, and hands the item to the crew
when it gets one. It gives the shift up if the semaphore refuses, which a closed one does; else it
waits for all items and has their results in order. Items that were handed over go on and end in any
order; a list of events is one such order. An event that cannot happen leads nowhere.

* `after_cases`: an event takes one item a step further, and closes nothing.
-/

import SchemaFerry.Run.Crew

namespace SchemaFerry.Run

/-- A crew at work, and whether the semaphore that gives out its permits was closed. -/
structure Shift (α β : Type) where
  crew : Crew α β
  isClosed : Bool

/-- What happens in a shift: the next item starts, an item at work goes on, or its work ends. -/
inductive Shift.Event (α β : Type) where
  | start
  | goOn (position : Nat) (item : α)
  | finish (position : Nat) (ending : Ending β)

namespace Shift

variable {α β : Type}

/-- A shift before its first item. -/
def ofItems (limit : Nat) (items : List α) : Shift α β :=
  ⟨Crew.ofItems limit items, false⟩

/-- The fault of a semaphore that was closed. -/
def refusal : Fault :=
  .task "semaphore closed"

/-- Asks for a permit for the next item. -/
def start (shift : Shift α β) : Option (Shift α β) :=
  if shift.isClosed then none
  else shift.crew.start.map fun started => { shift with crew := started.2 }

/-- The shift after an event, if that can happen. -/
def after (shift : Shift α β) : Event α β → Option (Shift α β)
  | .start => shift.start
  | .goOn position item =>
    (shift.crew.advance position item).map fun crew => { shift with crew }
  | .finish position ending =>
    (shift.crew.finish position ending).map fun crew => { shift with crew }

/-- The shift after events in turn. -/
def afterAll (shift : Shift α β) (events : List (Event α β)) : Option (Shift α β) :=
  events.foldlM after shift

/-- What the caller has: a fault if a permit was refused, the results if all items are done, and
nothing yet else. -/
def outcome? (shift : Shift α β) : Option (Except Fault (List (Except Fault β))) :=
  if shift.isClosed && (Crew.nextIn shift.crew.slots).isSome then some (.error refusal)
  else if shift.crew.isDone then some (.ok shift.crew.results)
  else none

/-! ### What an event does -/

/-- **What an event does to an item**: it starts, goes on, or is done with the result of its
ending. -/
inductive SlotStep : Event α β → Nat → Slot α β → Slot α β → Prop
  | start (position : Nat) (item : α) : SlotStep .start position (.waiting item) (.working item)
  | goOn (position : Nat) (item next : α) :
    SlotStep (.goOn position next) position (.working item) (.working next)
  | finish (position : Nat) (item : α) (ending : Ending β) :
    SlotStep (.finish position ending) position (.working item) (.finished item ending.result)

/-- **A start** is the start of the crew, and the semaphore is open. -/
theorem start_cases {shift later : Shift α β} (started : shift.start = some later) :
    ∃ item crew, shift.crew.start = some (item, crew) ∧ later = { shift with crew } := by
  unfold start at started
  split at started
  · cases started
  · obtain ⟨⟨item, crew⟩, given, rfl⟩ := Option.map_eq_some_iff.mp started
    exact ⟨item, crew, given, rfl⟩

/-- **An event** takes one item a step further, and closes nothing. -/
theorem after_cases {shift later : Shift α β} {event : Event α β}
    (happened : shift.after event = some later) :
    ∃ position old new, shift.crew.slots[position]? = some old ∧ SlotStep event position old new ∧
      later.crew.slots = shift.crew.slots.set position new ∧ later.isClosed = shift.isClosed := by
  cases event with
  | start =>
    obtain ⟨item, crew, given, rfl⟩ := start_cases happened
    obtain ⟨position, next, _, rfl⟩ := Crew.start_cases given
    exact ⟨position, _, _, Crew.getElem?_of_nextIn next, .start position item, rfl, rfl⟩
  | goOn position item =>
    obtain ⟨crew, advanced, rfl⟩ := Option.map_eq_some_iff.mp happened
    obtain ⟨before, found, rfl⟩ := Crew.advance_cases advanced
    exact ⟨position, _, _, Crew.working?_eq_some_iff.mp found, .goOn position before item, rfl, rfl⟩
  | finish position ending =>
    obtain ⟨crew, finished, rfl⟩ := Option.map_eq_some_iff.mp happened
    obtain ⟨item, found, rfl⟩ := Crew.finish_cases finished
    exact ⟨position, _, _, Crew.working?_eq_some_iff.mp found, .finish position item ending, rfl,
      rfl⟩

end Shift

end SchemaFerry.Run
