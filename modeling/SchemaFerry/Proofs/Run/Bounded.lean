/-
**A shift keeps to its limit, whatever the order of its events.**

No event loses a permit or closes the semaphore (`permits_afterAll`, `isClosed_afterAll`), and each
start and each finish is one of the two steps that an item has (`stepsLeft_afterAll`). Where an item
stands follows from the events at its own position (`isOwn_afterAll`), so the endings of others have
no part in its result.

* **`shift_isBounded`** — after any events no more items are at work than the limit allows, a permit
  is given back however the work ends, and a shift that is not over can go on; its caller is never
  refused a permit, and has one result for each item in order, that of the item's own ending.
  Working items off is one such shift.
-/

import SchemaFerry.Proofs.Run.Reached
import SchemaFerry.Run.Shift

namespace SchemaFerry.Run.Shift

variable {α β : Type} {shift later : Shift α β} {event : Event α β} {events : List (Event α β)}
  {limit : Nat} {items : List α} {position : Nat} {slot old new : Slot α β}

/-! ### Permits and steps -/

/-- **No event loses a permit.** -/
theorem permits_after (happened : shift.after event = some later) :
    later.crew.permits = shift.crew.permits := by
  cases event with
  | start =>
    obtain ⟨item, crew, given, rfl⟩ := start_cases happened
    exact Crew.permits_start given
  | goOn position item =>
    obtain ⟨crew, advanced, rfl⟩ := Option.map_eq_some_iff.mp happened
    exact Crew.permits_advance advanced
  | finish position ending =>
    obtain ⟨crew, finished, rfl⟩ := Option.map_eq_some_iff.mp happened
    exact Crew.permits_finish finished

theorem permits_afterAll (reached : (ofItems limit items).afterAll events = some shift) :
    shift.crew.permits = max limit 1 := by
  refine foldlM_induction (motive := fun _ (next : Shift α β) => next.crew.permits = max limit 1)
    (Crew.permits_ofItems limit items) ?_ reached
  intro _ _ _ _ held happened
  rw [permits_after happened, held]

/-- **No event closes the semaphore.** -/
theorem isClosed_afterAll (reached : (ofItems limit items).afterAll events = some shift) :
    shift.isClosed = false := by
  refine foldlM_induction (motive := fun _ (next : Shift α β) => next.isClosed = false) rfl ?_
    reached
  intro _ _ _ _ held happened
  obtain ⟨_, _, _, _, _, _, same⟩ := after_cases happened
  exact same.trans held

/-- Whether an event is a start or a finish. -/
def Event.isMove : Event α β → Bool
  | .goOn .. => false
  | _ => true

/-- An item has one start and one finish before it. -/
theorem SlotStep.stepsLeft_eq (step : SlotStep event position old new) :
    new.stepsLeft + event.isMove.toNat = old.stepsLeft := by
  cases step <;> rfl

theorem stepsLeft_ofItems (limit : Nat) (items : List α) :
    (ofItems limit items : Shift α β).crew.stepsLeft = 2 * items.length := by
  rw [ofItems, Crew.ofItems, Crew.stepsLeft]
  induction items with
  | nil => rfl
  | cons item rest ih =>
    rw [List.map_cons, Crew.weigh, ih, List.length_cons]
    show 2 + 2 * rest.length = _
    omega

/-- **Every start and every finish is counted**: each item has two steps. -/
theorem stepsLeft_afterAll (reached : (ofItems limit items).afterAll events = some shift) :
    shift.crew.stepsLeft + events.countP Event.isMove = 2 * items.length := by
  refine foldlM_induction (motive := fun done (next : Shift α β) =>
    next.crew.stepsLeft + done.countP Event.isMove = 2 * items.length)
    (stepsLeft_ofItems limit items) ?_ reached
  intro done event before next held happened
  obtain ⟨place, old, new, found, step, slots, _⟩ := after_cases happened
  have change := Crew.weigh_set Slot.stepsLeft found new
  have counted : [event].countP Event.isMove = event.isMove.toNat := by
    rw [List.countP_singleton]
    cases event.isMove <;> rfl
  have less := step.stepsLeft_eq
  rw [Crew.stepsLeft] at held
  rw [Crew.stepsLeft, slots, List.countP_append, counted]
  omega

/-! ### Own events -/

/-- What the item at a position becomes with an event. -/
def Event.state? (position : Nat) : Event α β → Option α
  | .goOn place item => if place = position then some item else none
  | _ => none

/-- How the work on the item at a position ends with an event. -/
def Event.ending? (position : Nat) : Event α β → Option (Ending β)
  | .finish place ending => if place = position then some ending else none
  | _ => none

/-- What the item at a position becomes, in order. -/
def statesOf (position : Nat) (events : List (Event α β)) : List α :=
  events.filterMap (Event.state? position)

/-- How the work on the item at a position ends. -/
def endingsOf (position : Nat) (events : List (Event α β)) : List (Ending β) :=
  events.filterMap (Event.ending? position)

/-- **An item stands where its own events led it**: it is what it became last, and is done exactly
with its own ending. -/
structure IsOwn (item : α) (position : Nat) (events : List (Event α β)) (slot : Slot α β) :
    Prop where
  item : slot.item = (statesOf position events).getLastD item
  result : slot.result?.toList = (endingsOf position events).map Ending.result

section Own

variable {item : α}

theorem statesOf_concat_of_none (silent : event.state? position = none) :
    statesOf position (events ++ [event]) = statesOf position events := by
  rw [statesOf, List.filterMap_append, List.filterMap_cons_none silent]
  exact List.append_nil _

theorem endingsOf_concat_of_none (silent : event.ending? position = none) :
    endingsOf position (events ++ [event]) = endingsOf position events := by
  rw [endingsOf, List.filterMap_append, List.filterMap_cons_none silent]
  exact List.append_nil _

/-- **What happens to other items** has no part in where an item stands. -/
theorem IsOwn.other (own : IsOwn item position events slot) {place : Nat}
    (step : SlotStep event place old new) (different : place ≠ position) :
    IsOwn item position (events ++ [event]) slot := by
  obtain ⟨state, result⟩ := own
  have unchanged : event.state? position = none ∧ event.ending? position = none := by
    cases step with
    | start => exact ⟨rfl, rfl⟩
    | goOn => exact ⟨if_neg different, rfl⟩
    | finish => exact ⟨rfl, if_neg different⟩
  refine ⟨?_, ?_⟩
  · rw [statesOf_concat_of_none unchanged.1, state]
  · rw [endingsOf_concat_of_none unchanged.2, result]

/-- **What happens to an item** leads it to where it stands then. -/
theorem IsOwn.step (own : IsOwn item position events old)
    (step : SlotStep event position old new) : IsOwn item position (events ++ [event]) new := by
  obtain ⟨state, result⟩ := own
  cases step with
  | start _ held =>
    refine ⟨?_, ?_⟩
    · rw [statesOf_concat_of_none rfl]
      exact state
    · rw [endingsOf_concat_of_none rfl]
      exact result
  | goOn _ held next =>
    refine ⟨?_, ?_⟩
    · have last : (Event.goOn position next : Event α β).state? position = some next := if_pos rfl
      rw [statesOf, List.filterMap_append, List.filterMap_cons_some last, List.filterMap_nil,
        List.getLastD_concat]
      rfl
    · rw [endingsOf_concat_of_none rfl]
      exact result
  | finish _ held ending =>
    refine ⟨?_, ?_⟩
    · rw [statesOf_concat_of_none rfl]
      exact state
    · have only : (Event.finish position ending : Event α β).ending? position = some ending :=
        if_pos rfl
      rw [endingsOf, List.filterMap_append, List.filterMap_cons_some only, List.filterMap_nil,
        List.map_append, ← endingsOf, ← result]
      rfl

end Own

/-- **Every item stands where its own events led it**, after any events. -/
theorem isOwn_afterAll (reached : (ofItems limit items).afterAll events = some shift)
    (found : shift.crew.slots[position]? = some slot) :
    ∃ item, items[position]? = some item ∧ IsOwn item position events slot := by
  refine foldlM_induction (motive := fun done (next : Shift α β) => ∀ position slot,
    next.crew.slots[position]? = some slot →
      ∃ item, items[position]? = some item ∧ IsOwn item position done slot) ?_ ?_ reached
    position slot found
  · intro position slot found
    rw [ofItems, Crew.ofItems, List.getElem?_map, Option.map_eq_some_iff] at found
    obtain ⟨item, there, rfl⟩ := found
    exact ⟨item, there, rfl, rfl⟩
  · intro done event before next stands happened position slot found
    obtain ⟨place, old, new, slotFound, step, slots, _⟩ := after_cases happened
    rw [slots] at found
    by_cases same : place = position
    · subst same
      obtain ⟨within, _⟩ := List.getElem?_eq_some_iff.mp slotFound
      rw [List.getElem?_set_self within] at found
      cases found
      obtain ⟨item, there, own⟩ := stands place old slotFound
      exact ⟨item, there, own.step step⟩
    · rw [List.getElem?_set_ne same] at found
      obtain ⟨item, there, own⟩ := stands position slot found
      exact ⟨item, there, own.other step same⟩

/-- No event adds or removes an item. -/
theorem length_afterAll (reached : (ofItems limit items).afterAll events = some shift) :
    shift.crew.slots.length = items.length := by
  refine foldlM_induction (motive := fun _ (next : Shift α β) =>
    next.crew.slots.length = items.length) (List.length_map ..) ?_ reached
  intro _ _ _ _ held happened
  obtain ⟨_, _, _, _, _, slots, _⟩ := after_cases happened
  rw [slots, List.length_set, held]

/-! ### The outcome -/

/-- The caller is not refused a permit that no event closed. -/
theorem outcome?_of_open (isOpen : shift.isClosed = false) :
    shift.outcome? = if shift.crew.isDone then some (.ok shift.crew.results) else none := by
  rw [outcome?, isOpen, Bool.false_and, if_neg Bool.false_ne_true]

/-- The results of items that are all done, at their places. -/
theorem results_of_isDone (done : shift.crew.isDone = true) :
    shift.crew.results.map some = shift.crew.slots.map Slot.result? := by
  refine map_filterMap_eq_map fun slot member => ?_
  obtain ⟨result, has⟩ := Option.isSome_iff_exists.mp (List.all_eq_true.mp done slot member)
  exact ⟨result, has, has.symm⟩

/-- **A shift is over exactly if the work on each item has ended.** -/
theorem isDone_iff (reached : (ofItems limit items).afterAll events = some shift) :
    shift.crew.isDone = true ↔ ∀ position < items.length, endingsOf position events ≠ [] := by
  have length := length_afterAll reached
  -- An item has a result exactly if it has an ending of its own.
  have same : ∀ position slot, shift.crew.slots[position]? = some slot →
      (slot.result?.isSome = true ↔ endingsOf position events ≠ []) := by
    intro position slot found
    obtain ⟨item, _, own⟩ := isOwn_afterAll reached found
    have ended := own.result
    cases has : slot.result? with
    | none =>
      rw [has] at ended
      have unended : endingsOf position events = [] := List.map_eq_nil_iff.mp ended.symm
      simp [unended]
    | some result =>
      rw [has] at ended
      have present : endingsOf position events ≠ [] := by
        intro unended
        rw [unended] at ended
        cases ended
      simp [present]
  constructor
  · intro done position below
    rw [← length] at below
    have found := List.getElem?_eq_getElem below
    exact (same position _ found).mp (List.all_eq_true.mp done _ (List.mem_of_getElem? found))
  · intro ended
    refine List.all_eq_true.mpr fun slot member => ?_
    obtain ⟨position, found⟩ := List.getElem?_of_mem member
    have below := (List.getElem?_eq_some_iff.mp found).1
    exact (same position slot found).mpr (ended position (length ▸ below))

/-- **The results of a shift that is over** are those of the items' own endings, in order. -/
theorem results_afterAll (reached : (ofItems limit items).afterAll events = some shift)
    (done : shift.crew.isDone = true) :
    shift.crew.results.length = items.length ∧ ∀ position < items.length, ∃ ending,
      endingsOf position events = [ending] ∧
        shift.crew.results[position]? = some ending.result := by
  have length := length_afterAll reached
  have all := results_of_isDone done
  refine ⟨?_, fun position below => ?_⟩
  · have counts := congrArg List.length all
    rwa [List.length_map, List.length_map, length] at counts
  · rw [← length] at below
    have found := List.getElem?_eq_getElem below
    obtain ⟨item, _, own⟩ := isOwn_afterAll reached found
    have entry := congrArg (·[position]?) all
    simp only [List.getElem?_map, found, Option.map_some, Option.map_eq_some_iff] at entry
    obtain ⟨result, there, has⟩ := entry
    have ended := own.result
    rw [← has, Option.toList_some, eq_comm, List.map_eq_singleton_iff] at ended
    obtain ⟨ending, only, same⟩ := ended
    exact ⟨ending, only, by rw [there, same]⟩

/-- **A shift that is not over can go on**: the next item can start, or one is at work. -/
theorem goesOn_of_not_isDone (reached : (ofItems limit items).afterAll events = some shift)
    (between : ¬shift.crew.isDone = true) :
    (∃ later, shift.after .start = some later) ∨
      ∃ position item, shift.crew.working? position = some item := by
  have permitted : 0 < shift.crew.permits := by
    rw [permits_afterAll reached]
    exact Nat.lt_of_lt_of_le Nat.one_pos (Nat.le_max_right ..)
  cases started : shift.crew.start with
  | some given =>
    left
    refine ⟨{ shift with crew := given.2 }, ?_⟩
    show shift.start = _
    rw [start, isClosed_afterAll reached, if_neg Bool.false_ne_true, started]
    rfl
  | none =>
    cases first : Crew.firstIn shift.crew.slots with
    | none => exact absurd (Crew.isDone_of_stuck permitted started first) between
    | some entry =>
      right
      exact ⟨entry.1, entry.2, Crew.working?_eq_some_iff.mpr (Crew.getElem?_of_firstIn first)⟩

/-- **An item at work can end in any way**, and then its permit is free again. -/
theorem exists_finish {item : α} (found : shift.crew.working? position = some item)
    (ending : Ending β) :
    ∃ later, shift.after (.finish position ending) = some later ∧
      later.crew.free = shift.crew.free + 1 := by
  simp only [after, Crew.finish, found, Option.map_some]
  exact ⟨_, rfl, rfl⟩

/-! ### Working items off -/

/-- Whether an event is one of a shift in which an item ends at once, by the work on it. -/
def Event.IsBy (work : α → Ending β) (items : List α) : Event α β → Prop
  | .start => True
  | .goOn .. => False
  | .finish position ending => ∃ item, items[position]? = some item ∧ ending = work item

/-- In such a shift the items stay what they are. -/
theorem item_of_isBy {work : α → Ending β}
    (reached : (ofItems limit items).afterAll events = some shift)
    (plain : ∀ event ∈ events, event.IsBy work items)
    (found : shift.crew.slots[position]? = some slot) : items[position]? = some slot.item := by
  obtain ⟨item, there, own⟩ := isOwn_afterAll reached found
  have unmoved : statesOf position events = [] := by
    refine List.filterMap_eq_nil_iff.mpr fun event member => ?_
    have by' := plain event member
    cases event with
    | start | finish => rfl
    | goOn => exact by'.elim
  rw [own.item, unmoved]
  exact there

/-- No more items are at work than the limit allows. -/
theorem atWork_le (reached : (ofItems limit items).afterAll events = some shift) :
    shift.crew.atWork ≤ max limit 1 := by
  have permits := permits_afterAll reached
  rw [Crew.permits] at permits
  omega

/-- **Working items off is a shift that comes to its end**, with no more at work than the limit
allows. -/
theorem exists_workOff (work : α → Ending β) (crew : Crew α β) (peak : Nat)
    (reached : (ofItems limit items).afterAll events = some ⟨crew, false⟩)
    (plain : ∀ event ∈ events, event.IsBy work items) (low : peak ≤ max limit 1) :
    ∃ all, (ofItems limit items).afterAll all = some ⟨(crew.workOff work peak).1, false⟩ ∧
      (crew.workOff work peak).1.isDone = true ∧ (∀ event ∈ all, event.IsBy work items) ∧
        (crew.workOff work peak).2 ≤ max limit 1 := by
  have onceMore : ∀ {events : List (Event α β)} {event : Event α β},
      (∀ event ∈ events, event.IsBy work items) → event.IsBy work items →
        ∀ other ∈ events ++ [event], other.IsBy work items := by
    intro events event plain last other member
    rcases List.mem_append.mp member with early | late
    · exact plain other early
    · rwa [List.mem_singleton.mp late]
  fun_induction Crew.workOff work peak crew generalizing events with
  | case1 peak crew item next started ih =>
    have happened : (⟨crew, false⟩ : Shift α β).after .start = some ⟨next, false⟩ := by
      show start _ = _
      rw [start, if_neg Bool.false_ne_true, started]
      rfl
    have further := foldlM_concat reached happened
    exact ih further (onceMore plain trivial) (Nat.max_le.mpr ⟨low, atWork_le further⟩)
  | case2 peak crew noStart noFirst =>
    have permitted : 0 < crew.permits := by
      rw [permits_afterAll reached]
      exact Nat.lt_of_lt_of_le Nat.one_pos (Nat.le_max_right ..)
    exact ⟨events, reached, Crew.isDone_of_stuck permitted noStart noFirst, plain, low⟩
  | case3 peak crew noStart position item first next finished ih =>
    have happened : (⟨crew, false⟩ : Shift α β).after (.finish position (work item)) =
        some ⟨next, false⟩ := by
      rw [after, finished]
      rfl
    have own : items[position]? = some item :=
      item_of_isBy reached plain (Crew.getElem?_of_firstIn first)
    exact ih (foldlM_concat reached happened) (onceMore plain ⟨item, own, rfl⟩) low
  | case4 peak crew noStart position item first stuck =>
    -- An item at work can always finish.
    have found := Crew.working?_eq_some_iff.mpr (Crew.getElem?_of_firstIn first)
    simp only [Crew.finish, found, reduceCtorEq] at stuck

/-! ### Shifts -/

/-- **What holds of a shift** with a limit, after events.

* `bounded`, `permits`, `givenBack` — no more items are at work than the limit allows; every permit
  is free or given out; and an item at work can end in any way, which gives its permit back;
* `goesOn`, `left` — if the caller has no outcome yet, the next item can start or one is at work;
  and starts and finishes come to two for each item;
* `unfailed`, `ended` — the caller is never refused, and has its outcome exactly if the work on
  every item has ended;
* `results` — its outcome has one result for each item in order, that of the item's own ending;
* `own` — and up to then each item stands where its own events led it. -/
structure IsSound (limit : Nat) (items : List α) (events : List (Event α β)) (shift : Shift α β) :
    Prop where
  bounded : shift.crew.atWork ≤ max limit 1
  permits : shift.crew.free + shift.crew.atWork = max limit 1
  givenBack : ∀ {position : Nat} {item : α}, shift.crew.working? position = some item →
    ∀ ending, ∃ later, shift.after (.finish position ending) = some later ∧
      later.crew.free = shift.crew.free + 1
  goesOn : shift.outcome? = none → (∃ later, shift.after .start = some later) ∨
    ∃ position item, shift.crew.working? position = some item
  left : shift.crew.stepsLeft + events.countP Event.isMove = 2 * items.length
  unfailed : ∀ fault, shift.outcome? ≠ some (.error fault)
  ended : shift.outcome? ≠ none ↔ ∀ position < items.length, endingsOf position events ≠ []
  results : ∀ {results : List (Except Fault β)}, shift.outcome? = some (.ok results) →
    results.length = items.length ∧ ∀ position < items.length, ∃ ending,
      endingsOf position events = [ending] ∧ results[position]? = some ending.result
  own : ∀ {position : Nat} {slot : Slot α β}, shift.crew.slots[position]? = some slot →
    ∃ item, items[position]? = some item ∧ IsOwn item position events slot

/-- After any events a shift is sound. -/
theorem isSound_afterAll (reached : (ofItems limit items).afterAll events = some shift) :
    IsSound limit items events shift := by
  have shape := outcome?_of_open (isClosed_afterAll reached)
  refine ⟨atWork_le reached, permits_afterAll reached, exists_finish, fun unsettled => ?_,
    stepsLeft_afterAll reached, fun fault failed => ?_, ?_, fun {results} whole => ?_,
    isOwn_afterAll reached⟩
  · rw [shape] at unsettled
    refine goesOn_of_not_isDone reached fun done => ?_
    rw [if_pos done] at unsettled
    cases unsettled
  · rw [shape] at failed
    split at failed <;> cases failed
  · rw [shape, ← isDone_iff reached]
    by_cases done : shift.crew.isDone = true
    · simp [done]
    · simp [done]
  · rw [shape] at whole
    by_cases done : shift.crew.isDone = true
    · rw [if_pos done] at whole
      cases whole
      exact results_afterAll reached done
    · rw [if_neg done] at whole
      cases whole

/-- **Items are worked with a limit**: every shift is sound, whatever its events are, and working
the items off is a shift at the end of which the caller has the result of each. -/
structure IsBounded (β : Type) (limit : Nat) (items : List α) : Prop where
  sound : ∀ {events : List (Event α β)} {shift : Shift α β},
    (ofItems limit items).afterAll events = some shift → IsSound limit items events shift
  workedOff : ∀ work : α → Ending β, ∃ events shift,
    (ofItems limit items).afterAll events = some shift ∧
      shift.outcome? = some (.ok (runBounded limit work items).1) ∧
      (runBounded limit work items).1 = items.map (fun item => (work item).result) ∧
      (runBounded limit work items).2 ≤ max limit 1

/-- **A shift keeps to its limit and has every item's own result**, for all items, every limit and
every order of events. -/
theorem shift_isBounded (β : Type) (limit : Nat) (items : List α) : IsBounded β limit items := by
  refine ⟨isSound_afterAll, fun work => ?_⟩
  have first : (ofItems limit items : Shift α β).afterAll [] =
      some ⟨Crew.ofItems limit items, false⟩ := rfl
  obtain ⟨events, reached, done, plain, low⟩ :=
    exists_workOff work (Crew.ofItems limit items) 0 first nofun (Nat.zero_le _)
  have outcome := outcome?_of_open (isClosed_afterAll reached)
  rw [if_pos done] at outcome
  refine ⟨events, _, reached, outcome, ?_, low⟩
  obtain ⟨length, each⟩ := results_afterAll reached done
  refine List.ext_getElem? fun position => ?_
  by_cases below : position < items.length
  · obtain ⟨ending, only, there⟩ := each position below
    -- The ending is the one that an event of the item's own says, which is by the work on it.
    have member : ending ∈ endingsOf position events := by
      rw [only]
      exact List.mem_singleton_self _
    obtain ⟨event, among, ends⟩ := List.mem_filterMap.mp member
    have origin := plain event among
    cases event with
    | start => cases ends
    | goOn => exact origin.elim
    | finish place other =>
      obtain ⟨rfl, same⟩ := (Option.ite_none_right_eq_some).mp ends
      obtain ⟨item, found, rfl⟩ := origin
      cases same
      show (Crew.results _)[place]? = _
      rw [there, List.getElem?_map, found]
      rfl
  · have beyond := Nat.le_of_not_lt below
    show (Crew.results _)[position]? = _
    rw [List.getElem?_eq_none (Nat.le_trans (Nat.le_of_eq length) beyond), List.getElem?_eq_none]
    rwa [List.length_map]

end SchemaFerry.Run.Shift
