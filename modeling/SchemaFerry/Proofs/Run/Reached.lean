/-
**What a fleet has come to.**

An event changes one slot (`exists_perm_set`), and what is kept by every event is true after any
(`foldlM_induction`). So of a fleet that events have led to no permit is lost (`permits_afterAll`)
and the tables are those that it had, in their order (`mappings_afterAll`). A crew that has a permit
and can neither start nor go on is done (`Crew.isDone_of_stuck`).
-/

import Mathlib.Data.List.Perm.Basic
import SchemaFerry.Run.Turns

namespace SchemaFerry.Run

open SchemaFerry.Copy

/-! ### Members of a list -/

/-- A list in which one member is replaced: the others stay. -/
theorem exists_perm_set {α : Type} {items : List α} {position : Nat} {old : α}
    (found : items[position]? = some old) (new : α) :
    ∃ rest, items.Perm (old :: rest) ∧ (items.set position new).Perm (new :: rest) := by
  obtain ⟨within, same⟩ := List.getElem?_eq_some_iff.mp found
  refine ⟨items.eraseIdx position, ?_, List.set_perm_cons_eraseIdx within new⟩
  rw [← same]
  exact (List.getElem_cons_eraseIdx_perm within).symm

/-- What is found for every member of a list, member by member. -/
theorem map_filterMap_eq_map {α β γ : Type} {find : α → Option β} {of : β → γ} {expected : α → γ}
    {items : List α}
    (all : ∀ item ∈ items, ∃ value, find item = some value ∧ of value = expected item) :
    (items.filterMap find).map of = items.map expected := by
  induction items with
  | nil => rfl
  | cons first rest ih =>
    obtain ⟨value, found, same⟩ := all first List.mem_cons_self
    rw [List.filterMap_cons_some found, List.map_cons, List.map_cons, same,
      ih fun item member => all item (List.mem_cons_of_mem _ member)]

/-! ### Steps in turn -/

section Steps

variable {α β : Type} {step : β → α → Option β} {items : List α} {first last : β}

/-- **What holds at the start and is kept by every step** holds after any steps. -/
theorem foldlM_induction {motive : List α → β → Prop} (start : motive [] first)
    (keep : ∀ {done : List α} {item : α} {before next : β}, motive done before →
      step before item = some next → motive (done ++ [item]) next)
    (reached : items.foldlM step first = some last) : motive items last := by
  have all : ∀ (rest done : List α) (before : β), motive done before →
      rest.foldlM step before = some last → motive (done ++ rest) last := by
    intro rest
    induction rest with
    | nil =>
      intro done before held same
      cases same
      rwa [List.append_nil]
    | cons item rest ih =>
      intro done before held reached
      obtain ⟨next, happened, others⟩ := Option.bind_eq_some_iff.mp reached
      have whole := ih (done ++ [item]) next (keep held happened) others
      rwa [List.append_assoc, List.singleton_append] at whole
  exact all items [] first start reached

/-- Steps in turn and then one more. -/
theorem foldlM_concat (reached : items.foldlM step first = some last) {item : α} {next : β}
    (happened : step last item = some next) : (items ++ [item]).foldlM step first = some next := by
  rw [List.foldlM_append]
  exact Option.bind_eq_some_iff.mpr ⟨last, reached, Option.bind_eq_some_iff.mpr
    ⟨next, happened, rfl⟩⟩

end Steps

/-! ### Permits -/

namespace Crew

variable {α β : Type} {crew after : Crew α β}

/-- How many permits there are, free or given out. -/
def permits (crew : Crew α β) : Nat :=
  crew.free + crew.atWork

theorem atWork_put {position : Nat} {slot : Slot α β}
    (found : crew.slots[position]? = some slot) (other : Slot α β) :
    (crew.put position other).atWork + slot.isWorking.toNat =
      crew.atWork + other.isWorking.toNat := by
  have count : ∀ slots : List (Slot α β), slots.countP Slot.isWorking =
      weigh (fun slot => slot.isWorking.toNat) slots := by
    intro slots
    induction slots with
    | nil => rfl
    | cons first rest ih =>
      rw [List.countP_cons, weigh, ih, Nat.add_comm]
      cases first.isWorking <;> rfl
  rw [atWork, atWork, put, count, count]
  exact weigh_set (fun slot => slot.isWorking.toNat) found other

/-- A crew starts with all its permits. -/
theorem permits_ofItems (limit : Nat) (items : List α) :
    (ofItems limit items : Crew α β).permits = max limit 1 := by
  rw [permits, atWork, ofItems, List.countP_eq_zero.mpr, Nat.add_zero]
  intro slot member
  obtain ⟨item, _, rfl⟩ := List.mem_map.mp member
  exact Bool.false_ne_true

/-- A start takes a permit from the free ones. -/
theorem permits_start {item : α} (started : crew.start = some (item, after)) :
    after.permits = crew.permits := by
  obtain ⟨position, next, free, rfl⟩ := start_cases started
  have change := atWork_put (getElem?_of_nextIn next) (.working item)
  simp only [permits, atWork, put, Slot.waiting, Slot.working, Slot.isWorking, Bool.toNat_false,
    Bool.toNat_true] at change ⊢
  omega

/-- Work on an item keeps its permit. -/
theorem permits_advance {position : Nat} {item : α}
    (advanced : crew.advance position item = some after) : after.permits = crew.permits := by
  obtain ⟨before, found, rfl⟩ := advance_cases advanced
  have change := atWork_put (working?_eq_some_iff.mp found) (.working item)
  simp only [permits, atWork, put, Slot.working, Slot.isWorking, Bool.toNat_true] at change ⊢
  omega

/-- **A finish gives the permit back**, however the work ended. -/
theorem permits_finish {position : Nat} {ending : Ending β}
    (finished : crew.finish position ending = some after) : after.permits = crew.permits := by
  obtain ⟨item, found, rfl⟩ := finish_cases finished
  have change := atWork_put (working?_eq_some_iff.mp found) (.finished item ending.result)
  simp only [permits, atWork, put, Slot.working, Slot.finished, Slot.isWorking, Bool.toNat_false,
    Bool.toNat_true] at change ⊢
  omega

/-- An item that waits or is at work is found. -/
theorem isDone_of_none (noNext : nextIn crew.slots = none) (noFirst : firstIn crew.slots = none) :
    crew.isDone = true := by
  have all : ∀ slots : List (Slot α β), nextIn slots = none → firstIn slots = none →
      slots.all (·.result?.isSome) = true := by
    intro slots
    induction slots with
    | nil => exact fun _ _ => rfl
    | cons slot rest ih =>
      obtain ⟨item, standing⟩ := slot
      cases standing with
      | waiting => exact fun next => by cases next
      | working => exact fun _ first => by cases first
      | finished result =>
        exact fun next first =>
          ih (Option.map_eq_none_iff.mp next) (Option.map_eq_none_iff.mp first)
  exact all crew.slots noNext noFirst

/-- An item at work is found. -/
theorem atWork_eq_zero (noFirst : firstIn crew.slots = none) : crew.atWork = 0 := by
  have idle : ∀ slots : List (Slot α β), firstIn slots = none →
      slots.countP Slot.isWorking = 0 := by
    intro slots
    induction slots with
    | nil => exact fun _ => rfl
    | cons slot rest ih =>
      obtain ⟨item, standing⟩ := slot
      cases standing with
      | working => exact fun first => by cases first
      | waiting | finished =>
        exact fun first => (List.countP_cons_of_neg Bool.false_ne_true).trans
          (ih (Option.map_eq_none_iff.mp first))
  exact idle crew.slots noFirst

/-- **A crew with a permit that can neither start nor go on is done.** -/
theorem isDone_of_stuck (permitted : 0 < crew.permits) (noStart : crew.start = none)
    (noFirst : firstIn crew.slots = none) : crew.isDone = true := by
  rw [permits, atWork_eq_zero noFirst, Nat.add_zero] at permitted
  refine isDone_of_none ?_ noFirst
  unfold start at noStart
  split at noStart
  · assumption
  · rw [if_pos permitted] at noStart
    cases noStart

end Crew

/-! ### After events -/

namespace Fleet

variable {fleet later : Fleet} {event : Event}

/-- **No event loses a permit.** -/
theorem permits_after (happened : fleet.after event = some later) :
    later.crew.permits = fleet.crew.permits := by
  cases event with
  | start =>
    obtain ⟨⟨copy, crew⟩, started, rfl⟩ := Option.map_eq_some_iff.mp happened
    exact Crew.permits_start started
  | reply position reply =>
    obtain ⟨copy, found, happened⟩ := Option.bind_eq_some_iff.mp happened
    obtain ⟨next, received, happened⟩ := Option.bind_eq_some_iff.mp happened
    obtain ⟨crew, advanced, same⟩ := Option.bind_eq_some_iff.mp happened
    cases same
    exact Crew.permits_advance advanced
  | leave position =>
    obtain ⟨copy, found, happened⟩ := Option.bind_eq_some_iff.mp happened
    obtain ⟨result, ended, happened⟩ := Option.bind_eq_some_iff.mp happened
    obtain ⟨crew, finished, same⟩ := Option.bind_eq_some_iff.mp happened
    cases same
    exact Crew.permits_finish finished
  | crash position text =>
    obtain ⟨crew, finished, rfl⟩ := Option.map_eq_some_iff.mp happened
    exact Crew.permits_finish finished

theorem permits_afterAll {events : List Event} (reached : fleet.afterAll events = some later) :
    later.crew.permits = fleet.crew.permits := by
  refine foldlM_induction (motive := fun _ next => next.crew.permits = fleet.crew.permits) rfl ?_
    reached
  intro _ _ _ _ held happened
  rw [permits_after happened, held]

/-- A step keeps the table of a slot. -/
theorem SlotStep.mapping_eq {position : Nat} {old new : Slot TableCopy Report.TableResult}
    (step : SlotStep event position old new) : new.item.mapping = old.item.mapping := by
  cases step with
  | start | leave | crash => rfl
  | reply _ received =>
    rcases TableCopy.receive_cases received with ⟨_, _, _, rfl⟩ | ⟨_, _, _, rfl⟩ |
      ⟨_, _, _, _, rfl⟩ | ⟨_, _, _, _, _, rfl⟩ | ⟨_, _, _, _, rfl⟩ <;> rfl

/-- The tables of a fleet. -/
def mappings (fleet : Fleet) : List TableMapping :=
  fleet.crew.slots.map (·.item.mapping)

/-- **The tables stay where they are.** -/
theorem mappings_after (happened : fleet.after event = some later) :
    later.mappings = fleet.mappings := by
  obtain ⟨position, old, new, found, step, slots, _⟩ := after_cases happened
  have kept : fleet.mappings[position]? = some new.item.mapping := by
    rw [mappings, List.getElem?_map, found, step.mapping_eq]
    rfl
  rw [mappings, slots, List.map_set, ← mappings]
  obtain ⟨within, same⟩ := List.getElem?_eq_some_iff.mp kept
  rw [← same, List.set_getElem_self]

theorem mappings_afterAll {events : List Event} (reached : fleet.afterAll events = some later) :
    later.mappings = fleet.mappings := by
  refine foldlM_induction (motive := fun _ next => next.mappings = fleet.mappings) rfl ?_ reached
  intro _ _ _ _ held happened
  rw [mappings_after happened, held]

theorem mappings_ofMappings (plan : CopyPlan) (tables : List TableMapping) :
    (ofMappings plan tables).mappings = tables := by
  simp only [mappings, ofMappings, Crew.ofItems, List.map_map]
  exact List.map_id tables

end Fleet

end SchemaFerry.Run
