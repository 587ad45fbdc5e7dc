/-
**What a table has come to after its own answers.**

Tables are copied at the same time, but what a copy has come to depends on the answers alone that it
was given itself. These are picked out of all events by its position (`repliesTo`), and the others
have no part in it.

* `TableCopy.isCounted_receiveAll` — a copy counts the rows and batches that it was told of;
* `Fleet.isAfter_afterAll` — after any events every table stands where its own answers led it;
* `Fleet.counted_afterAll` — the shared count grows with every commit as the count of the table
  does, so that it stays the sum of these.
-/

import SchemaFerry.Proofs.Copy.Accounting
import SchemaFerry.Proofs.Run.Course

namespace SchemaFerry.Run

open SchemaFerry.Copy SchemaFerry.Report

variable {σ δ : Type}

/-! ### One table -/

/-- Whether rows are committed with an answer. -/
def Reply.isCommit : Reply → Bool
  | written (.ok _) => true
  | _ => false

namespace TableCopy

/-- **What a copy counts is what it was told**: the rows and batches of its writes that were
committed. -/
structure IsCounted (copy : TableCopy) (replies : List Reply) : Prop where
  rows : copy.pump.rows = (replies.map Reply.committed).sum
  batches : copy.pump.batches = replies.countP Reply.isCommit
  written : copy.pump.rows = ((copy.pump.deliveries.map Delivery.written).sum : Nat)
  delivered : copy.pump.batches = copy.pump.deliveries.length

variable {copy after : TableCopy} {reply : Reply} {replies : List Reply}

/-- **An answer is counted** if rows are committed with it. -/
theorem isCounted_receive (counted : copy.IsCounted replies)
    (received : copy.receive reply = some after) : after.IsCounted (replies ++ [reply]) := by
  obtain ⟨rows, batches, written, delivered⟩ := counted
  -- All but a write that was committed leave the counts and the deliveries as they are.
  have silent : reply.committed = 0 → reply.isCommit = false → after.pump.rows = copy.pump.rows →
      after.pump.batches = copy.pump.batches → after.pump.deliveries = copy.pump.deliveries →
      after.IsCounted (replies ++ [reply]) := by
    intro noRows noBatch sameRows sameBatches same
    refine ⟨?_, ?_, ?_, ?_⟩
    · rw [sameRows, rows, List.map_append, List.sum_append, List.map_singleton, noRows]
      exact (Int.add_zero _).symm
    · rw [sameBatches, batches, List.countP_append, List.countP_singleton, noBatch]
      rfl
    · rw [sameRows, same, written]
    · rw [sameBatches, same, delivered]
  rcases receive_cases received with ⟨table, _, rfl, rfl⟩ | ⟨fault, _, rfl, rfl⟩ |
    ⟨table, fetched, _, rfl, rfl⟩ | ⟨table, held, count, _, rfl, rfl⟩ | ⟨table, result, _, rfl, rfl⟩
  · exact silent rfl rfl rfl rfl rfl
  · exact silent rfl rfl rfl rfl rfl
  · have same := Pump.deliveries_fetched copy.pump copy.size () fetched
    match fetched with
    | .error _ | .ok [] | .ok (_ :: _) => exact silent rfl rfl rfl rfl same
  · match count with
    | .error fault =>
      exact silent rfl rfl rfl rfl
        (Pump.deliveries_wrote_error copy.pump copy.mapping.source copy.size held () fault)
    | .ok count =>
      have more := Pump.deliveries_wrote_ok copy.pump copy.mapping.source copy.size held () count
      refine ⟨?_, ?_, ?_, ?_⟩
      · rw [List.map_append, List.sum_append, ← rows]
        rfl
      · rw [List.countP_append, ← batches]
        rfl
      · rw [more, List.map_append, List.sum_append, Nat.cast_add, ← written]
        rfl
      · rw [more, List.length_append, ← delivered]
        rfl
  · exact silent rfl rfl rfl rfl rfl

/-- After any answers a copy counts what it was told. -/
theorem isCounted_receiveAll {batchSize : Nat} {seconds : UInt64} {mapping : TableMapping}
    (received : (fresh batchSize seconds mapping).receiveAll replies = some copy) :
    copy.IsCounted replies :=
  foldlM_induction (motive := fun done next => next.IsCounted done) ⟨rfl, rfl, rfl, rfl⟩
    isCounted_receive received

/-- What the result of a copy says. -/
theorem result?_eq_some {result : TableResult} (ended : copy.result? = some result) :
    result.outcome.item = copy.mapping.source ∧ result.target = copy.mapping.target ∧
      result.rows = copy.pump.rows ∧ result.batches = copy.pump.batches := by
  unfold result? at ended
  split at ended
  · next outcome _ =>
    cases ended
    obtain ⟨source, target⟩ :=
      tableResult_names copy.mapping outcome ⟨copy.pump.rows, copy.pump.batches⟩ copy.seconds
    exact ⟨source, target, rfl, rfl⟩
  · cases ended

end TableCopy

/-! ### All tables -/

namespace Fleet

/-- The answer that an event gives to a table. -/
def Event.replyTo? (position : Nat) : Event → Option Reply
  | .reply place answer => if place = position then some answer else none
  | _ => none

/-- The answers that events give to a table, in order. -/
def repliesTo (position : Nat) (events : List Event) : List Reply :=
  events.filterMap (Event.replyTo? position)

/-- **Where a table stands after its own answers**: it waits for its first one, is at work, has left
with its result, or has crashed. -/
inductive IsAfter (copy : TableCopy) (position : Nat) (events : List Event) :
    Slot TableCopy TableResult → Prop
  | waiting (unanswered : repliesTo position events = []) : IsAfter copy position events (.waiting copy)
  | working {next : TableCopy}
    (received : copy.receiveAll (repliesTo position events) = some next) :
    IsAfter copy position events (.working next)
  | left {next : TableCopy} {result : TableResult}
    (received : copy.receiveAll (repliesTo position events) = some next)
    (ended : next.result? = some result) :
    IsAfter copy position events (.finished next (.ok result))
  | crashed {next : TableCopy} {text : String} (crash : .crash position text ∈ events) :
    IsAfter copy position events (.finished next (.error (.task text)))

section Slots

variable {copy : TableCopy} {position : Nat} {events : List Event} {event : Event}
  {slot old new : Slot TableCopy TableResult}

theorem replyTo?_of_ne {place : Nat} {reply : Reply} (different : place ≠ position) :
    (Event.reply place reply).replyTo? position = none :=
  if_neg different

theorem repliesTo_concat_of_none (other : event.replyTo? position = none) :
    repliesTo position (events ++ [event]) = repliesTo position events := by
  rw [repliesTo, List.filterMap_append, List.filterMap_cons_none other]
  exact List.append_nil _

theorem repliesTo_concat_reply (position : Nat) (events : List Event) (reply : Reply) :
    repliesTo position (events ++ [.reply position reply]) =
      repliesTo position events ++ [reply] := by
  have own : (Event.reply position reply).replyTo? position = some reply := if_pos rfl
  rw [repliesTo, List.filterMap_append, List.filterMap_cons_some own]
  rfl

/-- **What happens to other tables** has no part in where a table stands. -/
theorem IsAfter.other (stands : IsAfter copy position events slot)
    (apart : event.replyTo? position = none) : IsAfter copy position (events ++ [event]) slot := by
  have same : repliesTo position (events ++ [event]) = repliesTo position events :=
    repliesTo_concat_of_none apart
  cases stands with
  | waiting unanswered => exact .waiting (same.trans unanswered)
  | working received => exact .working (same ▸ received)
  | left received ended => exact .left (same ▸ received) ended
  | crashed crash => exact .crashed (List.mem_append_left _ crash)

/-- **What happens to a table** leads it to where it stands then. -/
theorem IsAfter.step (stands : IsAfter copy position events old)
    (step : SlotStep event position old new) : IsAfter copy position (events ++ [event]) new := by
  cases step with
  | start _ item =>
    cases stands with
    | waiting unanswered =>
      refine .working ?_
      rw [repliesTo_concat_of_none rfl, unanswered]
      rfl
  | @reply _ item next reply received =>
    cases stands with
    | working before =>
      refine .working ?_
      rw [repliesTo_concat_reply]
      exact foldlM_concat before received
  | leave _ ended =>
    cases stands with
    | working before =>
      refine .left ?_ ended
      rwa [repliesTo_concat_of_none rfl]
  | crash _ item text => exact .crashed (List.mem_append_right _ (List.mem_singleton_self _))

/-- What happens to a table is not told to others. -/
theorem SlotStep.replyTo?_of_ne {place : Nat} (step : SlotStep event place old new)
    (different : place ≠ position) : event.replyTo? position = none := by
  cases step with
  | start | leave | crash => rfl
  | reply => exact Fleet.replyTo?_of_ne different

end Slots

/-- **Every table stands where its own answers led it**, after any events. -/
theorem isAfter_afterAll {plan : CopyPlan} {tables : List TableMapping} {events : List Event}
    {fleet : Fleet} (reached : (ofMappings plan tables).afterAll events = some fleet)
    {position : Nat} {slot : Slot TableCopy TableResult}
    (found : fleet.crew.slots[position]? = some slot) :
    IsAfter (copyOf plan slot.item.mapping) position events slot := by
  refine foldlM_induction (motive := fun done next => ∀ position slot,
    next.crew.slots[position]? = some slot →
      IsAfter (copyOf plan slot.item.mapping) position done slot) ?_ ?_ reached position slot found
  · intro position slot found
    simp only [ofMappings, Crew.ofItems, List.map_map, List.getElem?_map,
      Option.map_eq_some_iff] at found
    obtain ⟨mapping, _, rfl⟩ := found
    exact .waiting rfl
  · intro done event before next stands happened position slot found
    obtain ⟨place, old, new, slotFound, step, slots, _⟩ := after_cases happened
    rw [slots] at found
    by_cases same : place = position
    · subst same
      obtain ⟨within, _⟩ := List.getElem?_eq_some_iff.mp slotFound
      rw [List.getElem?_set_self within] at found
      cases found
      rw [step.mapping_eq]
      exact (stands place old slotFound).step step
    · rw [List.getElem?_set_ne same] at found
      exact (stands position slot found).other (step.replyTo?_of_ne same)

/-- What an event commits is counted by the table that it is about. -/
theorem SlotStep.rows_eq {event : Event} {position : Nat} {old new : Slot TableCopy TableResult}
    (step : SlotStep event position old new) :
    new.item.pump.rows = old.item.pump.rows + event.committed := by
  cases step with
  | start | leave | crash => exact (Int.add_zero _).symm
  | reply _ received =>
    rcases TableCopy.receive_cases received with ⟨_, _, rfl, rfl⟩ | ⟨_, _, rfl, rfl⟩ |
      ⟨_, fetched, _, rfl, rfl⟩ | ⟨_, _, count, _, rfl, rfl⟩ | ⟨_, _, _, rfl, rfl⟩
    · exact (Int.add_zero _).symm
    · exact (Int.add_zero _).symm
    · match fetched with
      | .error _ | .ok [] | .ok (_ :: _) => exact (Int.add_zero _).symm
    · match count with
      | .error _ => exact (Int.add_zero _).symm
      | .ok _ => rfl
    · exact (Int.add_zero _).symm

/-- **The shared count is the sum of the counts of the tables**, after any events. -/
theorem counted_afterAll {plan : CopyPlan} {tables : List TableMapping} {events : List Event}
    {fleet : Fleet} (reached : (ofMappings plan tables).afterAll events = some fleet) :
    fleet.counted = (fleet.crew.slots.map (·.item.pump.rows)).sum := by
  refine foldlM_induction (motive := fun _ next =>
    next.counted = (next.crew.slots.map (·.item.pump.rows)).sum) ?_ ?_ reached
  · simp only [ofMappings, Crew.ofItems, List.map_map]
    refine (List.sum_eq_zero fun count member => ?_).symm
    obtain ⟨mapping, _, rfl⟩ := List.mem_map.mp member
    rfl
  · intro _ event before next held happened
    obtain ⟨place, old, new, found, step, slots, counted⟩ := after_cases happened
    obtain ⟨rest, had, has⟩ := exists_perm_set found new
    rw [counted, held, slots, (had.map _).sum_eq, (has.map _).sum_eq, List.map_cons, List.map_cons,
      List.sum_cons, List.sum_cons, step.rows_eq]
    ring

end Fleet

end SchemaFerry.Run
