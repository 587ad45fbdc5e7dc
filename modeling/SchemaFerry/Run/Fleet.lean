/-
**Tables that are copied at the same time.**

Every table has a transaction and a session of its own, so that nothing but the count of all
committed rows is shared. An event gives the next table a permit, gives a table at work the answer
that it needs, or lets one leave, with its result or by a crash; a list of events is one
interleaving. An event that cannot happen leads nowhere.

* `after_cases`: an event takes one table a step further;
* `hear_of_receive`, `exists_leave`: a table at work can take the answer that it needs, and leave
  when it needs none.
-/

import SchemaFerry.Run.Crew
import SchemaFerry.Run.TableCopy

namespace SchemaFerry.Run

open SchemaFerry.Copy

/-- Tables that are copied at the same time, and the count of rows committed so far. -/
structure Fleet where
  crew : Crew TableCopy Report.TableResult
  counted : Int

/-- What happens to a fleet. -/
inductive Fleet.Event where
  | start
  | reply (position : Nat) (reply : Reply)
  | leave (position : Nat)
  | crash (position : Nat) (text : String)

/-- The result of a table that is done; the work on it may have crashed. -/
def tableResult? (slot : Slot TableCopy Report.TableResult) : Option Report.TableResult :=
  match slot.result? with
  | some (.ok result) => some result
  | some (.error fault) =>
    some (.failed slot.item.mapping.source slot.item.mapping.target fault.message)
  | none => none

namespace Fleet

/-- The copy of a table by a plan. -/
def copyOf (plan : CopyPlan) (mapping : TableMapping) : TableCopy :=
  .fresh plan.settings.batchSize (plan.seconds mapping.source) mapping

/-- A fleet before its first table. -/
def ofMappings (plan : CopyPlan) (mappings : List TableMapping) : Fleet :=
  ⟨Crew.ofItems plan.settings.workers (mappings.map (copyOf plan)), 0⟩

/-- The fleet after a table at work was given an answer. -/
def hear (fleet : Fleet) (position : Nat) (reply : Reply) : Option Fleet := do
  let copy ← fleet.crew.working? position
  let crew ← fleet.crew.advance position (← copy.receive reply)
  return ⟨crew, fleet.counted + reply.committed⟩

/-- The fleet after a table left that needs nothing more. -/
def leave (fleet : Fleet) (position : Nat) : Option Fleet := do
  let copy ← fleet.crew.working? position
  let crew ← fleet.crew.finish position (.returned (.ok (← copy.result?)))
  return { fleet with crew }

/-- The fleet after an event, if that can happen. -/
def after (fleet : Fleet) : Event → Option Fleet
  | .start => fleet.crew.start.map fun started => { fleet with crew := started.2 }
  | .reply position reply => fleet.hear position reply
  | .leave position => fleet.leave position
  | .crash position text =>
    (fleet.crew.finish position (.crashed text)).map fun crew => { fleet with crew }

/-- The fleet after events in turn. -/
def afterAll (fleet : Fleet) (events : List Event) : Option Fleet :=
  events.foldlM after fleet

/-- Whether all tables are done. -/
def isDone (fleet : Fleet) : Bool :=
  fleet.crew.isDone

/-- The results of the tables that are done, in their order. -/
def results (fleet : Fleet) : List Report.TableResult :=
  fleet.crew.slots.filterMap tableResult?

/-! ### What an event does -/

/-- **What an event does to a table**: it starts, takes an answer, leaves with its result or crashes
with a fault of its task. -/
inductive SlotStep : Event → Nat → Slot TableCopy Report.TableResult →
    Slot TableCopy Report.TableResult → Prop
  | start (position : Nat) (copy : TableCopy) :
    SlotStep .start position (.waiting copy) (.working copy)
  | reply (position : Nat) {copy next : TableCopy} {reply : Reply}
    (received : copy.receive reply = some next) :
    SlotStep (.reply position reply) position (.working copy) (.working next)
  | leave (position : Nat) {copy : TableCopy} {result : Report.TableResult}
    (ended : copy.result? = some result) :
    SlotStep (.leave position) position (.working copy) (.finished copy (.ok result))
  | crash (position : Nat) (copy : TableCopy) (text : String) :
    SlotStep (.crash position text) position (.working copy)
      (.finished copy (.error (.task text)))

/-- How many rows are committed with an event. -/
def Event.committed : Event → Int
  | .reply _ answer => answer.committed
  | _ => 0

/-- **An event** takes one table a step further and counts what that committed. -/
theorem after_cases {fleet later : Fleet} {event : Event}
    (happened : fleet.after event = some later) :
    ∃ position old new, fleet.crew.slots[position]? = some old ∧
      SlotStep event position old new ∧ later.crew.slots = fleet.crew.slots.set position new ∧
        later.counted = fleet.counted + event.committed := by
  cases event with
  | start =>
    obtain ⟨⟨copy, crew⟩, started, rfl⟩ := Option.map_eq_some_iff.mp happened
    obtain ⟨position, next, free, rfl⟩ := Crew.start_cases started
    exact ⟨position, _, _, Crew.getElem?_of_nextIn next, .start position copy, rfl,
      (Int.add_zero _).symm⟩
  | reply position reply =>
    obtain ⟨copy, found, happened⟩ := Option.bind_eq_some_iff.mp happened
    obtain ⟨next, received, happened⟩ := Option.bind_eq_some_iff.mp happened
    obtain ⟨crew, advanced, same⟩ := Option.bind_eq_some_iff.mp happened
    obtain ⟨_, _, rfl⟩ := Crew.advance_cases advanced
    cases same
    exact ⟨position, _, _, Crew.working?_eq_some_iff.mp found, .reply position received, rfl, rfl⟩
  | leave position =>
    obtain ⟨copy, found, happened⟩ := Option.bind_eq_some_iff.mp happened
    obtain ⟨result, ended, happened⟩ := Option.bind_eq_some_iff.mp happened
    obtain ⟨crew, finished, same⟩ := Option.bind_eq_some_iff.mp happened
    obtain ⟨item, again, rfl⟩ := Crew.finish_cases finished
    cases same
    cases found.symm.trans again
    exact ⟨position, _, _, Crew.working?_eq_some_iff.mp found, .leave position ended, rfl,
      (Int.add_zero _).symm⟩
  | crash position text =>
    obtain ⟨crew, finished, rfl⟩ := Option.map_eq_some_iff.mp happened
    obtain ⟨copy, found, rfl⟩ := Crew.finish_cases finished
    exact ⟨position, _, _, Crew.working?_eq_some_iff.mp found, .crash position copy text, rfl,
      (Int.add_zero _).symm⟩

/-- A copy at work that can receive an answer is given it. -/
theorem hear_of_receive {fleet : Fleet} {position : Nat} {copy next : TableCopy} {reply : Reply}
    (found : fleet.crew.working? position = some copy) (received : copy.receive reply = some next) :
    fleet.after (.reply position reply) =
      some ⟨fleet.crew.put position (.working next), fleet.counted + reply.committed⟩ := by
  simp only [after, hear, found, received, Option.bind_eq_bind, Option.bind_some, Crew.advance]
  rfl

/-- A copy at work that needs nothing more can leave. -/
theorem exists_leave {fleet : Fleet} {position : Nat} {copy : TableCopy}
    {result : Report.TableResult} (found : fleet.crew.working? position = some copy)
    (ended : copy.result? = some result) :
    ∃ later, fleet.after (.leave position) = some later := by
  simp only [after, leave, found, ended, Option.bind_eq_bind, Option.bind_some, Crew.finish]
  exact ⟨_, rfl⟩

end Fleet

end SchemaFerry.Run
