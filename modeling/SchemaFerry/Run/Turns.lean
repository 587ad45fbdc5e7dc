/-
**Turns of a fleet in a run.**

A run lets the tables of its fleet take turns: the one whose turn it is starts, asks the servers for
what it needs, or departs. Any turns may be planned, also crashes; after these the first table at
work goes on, and when there is none the next one starts, until all are done.

* `take_isCloser`: a turn that is not planned brings the fleet closer to its end, so that the turns
  come to one.
-/

import SchemaFerry.Run.Fleet

namespace SchemaFerry.Run

open SchemaFerry.Copy

variable {σ δ : Type}

/-- A turn in a run: the next table starts, or a table at work goes on or crashes. -/
inductive Fleet.Turn where
  | start
  | advance (position : Nat)
  | crash (position : Nat) (text : String)
  deriving Repr, DecidableEq

namespace Fleet

/-- Lets the next table start, if there is a permit for it. -/
def begin (fleet : Fleet) : StateM (World σ δ) Fleet :=
  match fleet.crew.start with
  | none => return fleet
  | some (copy, crew) => do
    World.record (.copy copy.mapping.source)
    return { fleet with crew }

/-- Lets a copy depart by an event. -/
def depart (fleet : Fleet) (copy : TableCopy) (event : Event) : StateM (World σ δ) Fleet :=
  match fleet.after event with
  | none => return fleet
  | some after => do
    World.record (.copied copy.mapping.source)
    return after

theorem run_begin {fleet : Fleet} {copy : TableCopy} {crew : Crew TableCopy Report.TableResult}
    (started : fleet.crew.start = some (copy, crew)) (world : World σ δ) :
    fleet.begin.run world = ({ fleet with crew }, world.noted (.copy copy.mapping.source)) := by
  rw [begin, started]
  rfl

theorem run_depart {fleet later : Fleet} {copy : TableCopy} {event : Event}
    (happened : fleet.after event = some later) (world : World σ δ) :
    (fleet.depart copy event).run world = (later, world.noted (.copied copy.mapping.source)) := by
  rw [depart, happened]
  rfl

/-- Lets the copy at a position ask for what it needs, or depart if that is nothing. -/
def goOn (servers : Servers σ δ) (plan : CopyPlan) (fleet : Fleet) (position : Nat)
    (copy : TableCopy) : StateM (World σ δ) Fleet := do
  match ← copy.ask servers plan with
  | some reply => return (fleet.after (.reply position reply)).getD fleet
  | none => fleet.depart copy (.leave position)

/-- Takes a turn; one that is not possible is passed over. -/
def take (servers : Servers σ δ) (plan : CopyPlan) (fleet : Fleet) :
    Turn → StateM (World σ δ) Fleet
  | .start => fleet.begin
  | .advance position =>
    match fleet.crew.working? position with
    | none => return fleet
    | some copy => fleet.goOn servers plan position copy
  | .crash position text =>
    match fleet.crew.working? position with
    | none => return fleet
    | some copy => fleet.depart copy (.crash position text)

/-- The turn that is taken when none is planned: the first table at work goes on, and when there is
none the next one starts. -/
def turn? (fleet : Fleet) : Option Turn :=
  match Crew.firstIn fleet.crew.slots with
  | some (position, _) => some (.advance position)
  | none => fleet.crew.start.map fun _ => .start

/-! ### The end of the turns -/

/-- How many steps are left to a table, those with rows counted once. -/
def slotStepsLeft (slot : Slot TableCopy Report.TableResult) : Nat :=
  match slot.standing with
  | .waiting => 5
  | .working => slot.item.need.stepsLeft
  | .finished _ => 0

/-- How far a table is from its next fetch. -/
def slotMovesLeft (slot : Slot TableCopy Report.TableResult) : Nat :=
  match slot.standing with
  | .working => slot.item.need.movesLeft
  | _ => 0

theorem slotStepsLeft_working (copy : TableCopy) :
    slotStepsLeft (.working copy) = copy.need.stepsLeft := rfl

theorem slotMovesLeft_working (copy : TableCopy) :
    slotMovesLeft (.working copy) = copy.need.movesLeft := rfl

/-- How many steps are left to all tables, those with rows counted once. -/
def stepsLeft (fleet : Fleet) : Nat :=
  Crew.weigh slotStepsLeft fleet.crew.slots

/-- How many fetches and writes are left at most to the tables that move rows. -/
def movesLeft (servers : Servers σ δ) (fleet : Fleet) (world : World σ δ) : Nat :=
  2 * servers.source.rowsLeft world.source + Crew.weigh slotMovesLeft fleet.crew.slots

/-- A start, a departure and a crash bring a fleet closer to its end. -/
theorem stepsLeft_after {fleet later : Fleet} {event : Event}
    (happened : fleet.after event = some later)
    (silent : ∀ position reply, event ≠ .reply position reply) :
    later.stepsLeft < fleet.stepsLeft := by
  obtain ⟨position, old, new, found, step, slots, _⟩ := after_cases happened
  have change := Crew.weigh_set slotStepsLeft found new
  have less : slotStepsLeft new < slotStepsLeft old := by
    cases step with
    | start _ copy => exact Nat.lt_succ_of_le copy.need.stepsLeft_le
    | reply _ received => exact absurd rfl (silent _ _)
    | leave _ ended => exact Need.stepsLeft_pos _
    | crash _ copy _ => exact copy.need.stepsLeft_pos
  rw [stepsLeft, stepsLeft, slots]
  omega

/-- A fleet in a world is closer to its end than another one. -/
def IsCloser (servers : Servers σ δ) (later earlier : Fleet × World σ δ) : Prop :=
  later.1.stepsLeft < earlier.1.stepsLeft ∨
    later.1.stepsLeft = earlier.1.stepsLeft ∧
      later.1.movesLeft servers later.2 < earlier.1.movesLeft servers earlier.2

/-- A fleet is closer to its end when one of its copies is. -/
theorem hear_isCloser {servers : Servers σ δ} {plan : CopyPlan} {fleet later : Fleet}
    {position : Nat} {copy : TableCopy} {reply : Reply} {world between : World σ δ}
    (found : fleet.crew.working? position = some copy)
    (asked : (copy.ask servers plan).run world = (some reply, between))
    (heard : fleet.after (.reply position reply) = some later) :
    IsCloser servers (later, between) (fleet, world) := by
  obtain ⟨place, old, new, slot, step, slots, _⟩ := after_cases heard
  obtain ⟨_, fetched, written⟩ := TableCopy.ask_eq_some asked
  have steps := Crew.weigh_set slotStepsLeft slot new
  have moves := Crew.weigh_set slotMovesLeft slot new
  cases step with
  | @reply _ same next _ received =>
    cases slot.symm.trans (Crew.working?_eq_some_iff.mp found)
    rw [slotStepsLeft_working, slotStepsLeft_working] at steps
    rw [slotMovesLeft_working, slotMovesLeft_working] at moves
    simp only [IsCloser, stepsLeft, movesLeft, slots]
    rcases TableCopy.stepsLeft_receive received with less | ⟨same, moved⟩
    · omega
    · right
      rcases moved with ⟨rows, present, rfl, before, after⟩ | ⟨count, rfl, before, after⟩
      · have fewer := fetched rows rfl present
        omega
      · rw [written count rfl]
        omega

/-- A copy at work that goes on brings its fleet closer to its end. -/
theorem goOn_isCloser (servers : Servers σ δ) (plan : CopyPlan) {fleet : Fleet} {position : Nat}
    {copy : TableCopy} (found : fleet.crew.working? position = some copy) (world : World σ δ) :
    IsCloser servers ((fleet.goOn servers plan position copy).run world) (fleet, world) := by
  unfold goOn
  rw [StateT.run_bind]
  rcases asked : (copy.ask servers plan).run world with ⟨reply, between⟩
  cases reply with
  | some reply =>
    obtain ⟨next, received⟩ := Option.isSome_iff_exists.mp (TableCopy.ask_eq_some asked).1
    have heard := hear_of_receive found received
    show IsCloser servers ((fleet.after (.reply position reply)).getD fleet, between) _
    rw [heard]
    exact hear_isCloser found asked heard
  | none =>
    obtain ⟨⟨result, need⟩, rfl⟩ := TableCopy.ask_eq_none asked
    obtain ⟨later, happened⟩ := exists_leave found (TableCopy.result?_of_need need)
    show IsCloser servers ((fleet.depart copy (.leave position)).run between) _
    rw [run_depart happened]
    exact .inl (stepsLeft_after happened (by rintro _ _ ⟨⟩))

/-- The turn that is taken when none is planned brings a fleet closer to its end. -/
theorem take_isCloser (servers : Servers σ δ) (plan : CopyPlan) {fleet : Fleet} {turn : Turn}
    (chosen : fleet.turn? = some turn) (world : World σ δ) :
    IsCloser servers ((fleet.take servers plan turn).run world) (fleet, world) := by
  unfold turn? at chosen
  split at chosen
  · next position copy first =>
    cases chosen
    have found := Crew.working?_eq_some_iff.mpr (Crew.getElem?_of_firstIn first)
    simp only [take, found]
    exact goOn_isCloser servers plan found world
  · obtain ⟨⟨copy, crew⟩, started, rfl⟩ := Option.map_eq_some_iff.mp chosen
    show IsCloser servers (fleet.begin.run world) _
    rw [run_begin started]
    have happened : fleet.after .start = some { fleet with crew } := by
      rw [after, started]
      rfl
    exact .inl (stepsLeft_after happened (by rintro _ _ ⟨⟩))

/-- **Takes turns that are not planned** until there are none. -/
def settle (servers : Servers σ δ) (plan : CopyPlan) (fleet : Fleet) (world : World σ δ) :
    Fleet × World σ δ :=
  match _chosen : fleet.turn? with
  | none => (fleet, world)
  | some turn =>
    let next := (fleet.take servers plan turn).run world
    settle servers plan next.1 next.2
termination_by (fleet.stepsLeft, fleet.movesLeft servers world)
decreasing_by
  rcases take_isCloser servers plan ‹_› world with less | ⟨same, less⟩
  · exact .left _ _ less
  · rw [← same]
    exact .right _ less

/-- **Takes the turns that are planned**, and then more until there are none. -/
def follow (servers : Servers σ δ) (plan : CopyPlan) (turns : List Turn) (fleet : Fleet) :
    StateM (World σ δ) Fleet := do
  let between ← turns.foldlM (take servers plan) fleet
  fun world => settle servers plan between world

/-- Turns that are planned to the end are all that is taken. -/
theorem run_follow_of_planned {servers : Servers σ δ} {plan : CopyPlan} {turns : List Turn}
    {fleet : Fleet} {world : World σ δ}
    (toTheEnd : ((turns.foldlM (take servers plan) fleet).run world).1.turn? = none) :
    (follow servers plan turns fleet).run world =
      (turns.foldlM (take servers plan) fleet).run world := by
  rw [follow, StateT.run_bind]
  rcases planned : (turns.foldlM (take servers plan) fleet).run world with ⟨later, after⟩
  rw [planned] at toTheEnd
  show settle servers plan later after = (later, after)
  unfold settle
  split
  · rfl
  · next turn chosen => cases toTheEnd.symm.trans chosen

end Fleet

end SchemaFerry.Run
