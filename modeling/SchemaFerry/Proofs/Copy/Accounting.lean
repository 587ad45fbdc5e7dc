/-
**A pump accounts for every row.**

A source keeps its word (`RowSource.Gives`) if it gives the rows of a list in their order, and fewer
than were asked for only at the end of the list. Such a source may fail at any fetch, and the sink
may answer anything.

* `IsTraced` — what is true between any two steps of a pump: its journal is one block of events for
  each batch that was delivered, followed by what the phase has left open, and the rows of the list
  are those delivered, those held and those still in the source. Kept by every step
  (`isTraced_step`), so true of every run (`run_induction`).
* `Happened` — every fetch and write in a journal was really made, in the state in which the events
  before it had left the source and the sink, and had the answer that the journal says. Kept by
  every step too (`happened_step`).
* **`pumpRows_isAccounted`** — a pump that was run has ended, after no more fetches than it needs;
  what it delivered is the front of the list, or the whole list if nothing failed; what it counted
  is what it delivered; a failure is the last thing that it did, and its result.
-/

import Mathlib
import SchemaFerry.Copy.Memory

namespace SchemaFerry.Copy

variable {σ δ α : Type}

/-! ### Sources that keep their word -/

/-- **The source gives the rows of a list in their order**, and fewer than were asked for only if it
has no more. Which rows are still to come is read off its state. -/
structure RowSource.Gives (source : RowSource σ α) (remaining : σ → List α) : Prop where
  inOrder : ∀ {count : Nat} {state after : σ} {rows : List α},
    (source.fetch count).result state = (.ok rows, after) →
      remaining state = rows ++ remaining after
  shortAtEnd : ∀ {count : Nat} {state after : σ} {rows : List α},
    (source.fetch count).result state = (.ok rows, after) → rows.length < count →
      remaining after = []

/-- The rows of a list in order, with faults at the fetches that are listed to fail. -/
def RowSource.unreliable (α : Type) : RowSource (List α × List (Option Fault)) α where
  fetch count := Session.ofFunction fun state =>
    match state.2.head?.join with
    | some fault => (.error fault, (state.1, state.2.tail))
    | none => (.ok (state.1.take count), (state.1.drop count, state.2.tail))
  left state := state.1.length
  left_lt := by
    intro count state after rows given present
    rw [Session.result_ofFunction] at given
    split at given
    · cases given
    · simp only [Prod.mk.injEq, Except.ok.injEq] at given
      obtain ⟨rfl, rfl⟩ := given
      have taken := List.length_pos_iff.mpr present
      rw [List.length_take] at taken
      rw [List.length_drop]
      omega

/-- A list with faults at some fetches keeps its word. -/
theorem unreliable_gives (α : Type) : (RowSource.unreliable α).Gives Prod.fst where
  inOrder := by
    intro count state after rows given
    simp only [RowSource.unreliable, Session.result_ofFunction] at given
    split at given
    · cases given
    · cases given
      exact (List.take_append_drop count state.1).symm
  shortAtEnd := by
    intro count state after rows given short
    simp only [RowSource.unreliable, Session.result_ofFunction] at given
    split at given
    · cases given
    · cases given
      rw [List.length_take] at short
      exact List.drop_eq_nil_of_le (by omega)

/-! ### What a journal says -/

/-- A batch that was written, and how many rows its write counted. -/
structure Delivery (α : Type) where
  rows : List α
  written : Nat

/-- The events of a delivery: the fetch, the write, and the note that the batch is in place. -/
def Delivery.events (size : Nat) (delivery : Delivery α) : List (PumpEvent α) :=
  [.fetch size (.ok delivery.rows), .write delivery.rows (.ok delivery.written),
    .commit delivery.written]

/-- How a pump comes to its end after its last delivery: that was short, a fetch gave nothing, a
fetch failed, or a write failed. -/
inductive Closing (α : Type) where
  | short
  | exhausted
  | unread (fault : Fault)
  | unwritten (rows : List α) (fault : Fault)

namespace Closing

/-- The events of a closing. -/
def events (size : Nat) : Closing α → List (PumpEvent α)
  | short => []
  | exhausted => [.fetch size (.ok [])]
  | unread fault => [.fetch size (.error fault)]
  | unwritten rows fault => [.fetch size (.ok rows), .write rows (.error fault)]

/-- The result of a closing after a count of batches. -/
def result (table : String) (batches : Nat) : Closing α → Except Fault Unit
  | short | exhausted => .ok ()
  | unread fault => .error fault
  | unwritten _ fault => .error (Pump.batchFault table (batches + 1) fault)

end Closing

namespace PumpEvent

/-- The delivery that a write made. -/
def delivery? : PumpEvent α → Option (Delivery α)
  | write rows (.ok written) => some ⟨rows, written⟩
  | _ => none

/-- Whether a fetch or a write failed. -/
def isFailure : PumpEvent α → Bool
  | fetch _ (.error _) | write _ (.error _) => true
  | _ => false

/-- Whether the event is a fetch. -/
def isFetch : PumpEvent α → Bool
  | fetch .. => true
  | _ => false

end PumpEvent

namespace Pump

/-- The batches that were written, in order, with what their writes counted. -/
def deliveries (pump : Pump σ δ α) : List (Delivery α) :=
  pump.journal.reverse.filterMap PumpEvent.delivery?

/-- The rows that were written, in order. -/
def delivered (pump : Pump σ δ α) : List α :=
  pump.deliveries.flatMap Delivery.rows

/-- How many fetches were made. -/
def fetches (pump : Pump σ δ α) : Nat :=
  pump.journal.countP PumpEvent.isFetch

/-- A fetch delivers nothing. -/
theorem deliveries_fetched (pump : Pump σ δ α) (size : Nat) (source : σ)
    (rows : Except Fault (List α)) :
    (pump.fetched size source rows).deliveries = pump.deliveries := by
  match rows with
  | .error _ | .ok [] | .ok (_ :: _) =>
    simp only [fetched, deliveries, List.reverse_cons, List.filterMap_append]
    exact List.append_nil _

/-- A write that fails delivers nothing. -/
theorem deliveries_wrote_error (pump : Pump σ δ α) (table : String) (size : Nat) (rows : List α)
    (sink : δ) (fault : Fault) :
    (pump.wrote table size rows sink (.error fault)).deliveries = pump.deliveries := by
  simp only [wrote, deliveries, List.reverse_cons, List.filterMap_append]
  exact List.append_nil _

/-- A write that does not fail delivers the rows that it was given. -/
theorem deliveries_wrote_ok (pump : Pump σ δ α) (table : String) (size : Nat) (rows : List α)
    (sink : δ) (written : Nat) :
    (pump.wrote table size rows sink (.ok written)).deliveries =
      pump.deliveries ++ [⟨rows, written⟩] := by
  simp only [wrote, deliveries, List.reverse_cons, List.filterMap_append, List.append_assoc]
  rfl

end Pump

/-! ### What really happened -/

/-- **The events of a journal happened** between two states of a source and a sink, the last one
first: each fetch was made of the source and each write of the sink in the state in which the events
before it had left them, and had its answer; nothing else was done to either. -/
inductive Happened (source : RowSource σ α) (sink : BatchSink δ α) (origin : σ) (outlet : δ) :
    List (PumpEvent α) → σ → δ → Prop
  | nothing : Happened source sink origin outlet [] origin outlet
  | fetch {journal : List (PumpEvent α)} {state after : σ} {written : δ} {asked : Nat}
    {rows : Except Fault (List α)}
    (before : Happened source sink origin outlet journal state written)
    (given : (source.fetch asked).result state = (rows, after)) :
    Happened source sink origin outlet (.fetch asked rows :: journal) after written
  | write {journal : List (PumpEvent α)} {read : σ} {state after : δ} {rows : List α}
    {written : Except Fault Nat}
    (before : Happened source sink origin outlet journal read state)
    (made : (sink.write rows).result state = (written, after)) :
    Happened source sink origin outlet (.write rows written :: journal) read after
  | commit {journal : List (PumpEvent α)} {read : σ} {state : δ} (written : Nat)
    (before : Happened source sink origin outlet journal read state) :
    Happened source sink origin outlet (.commit written :: journal) read state

/-- **Every step of a pump puts in its journal what it did**, and does nothing else. -/
theorem happened_step {source : RowSource σ α} {sink : BatchSink δ α} {origin : σ} {outlet : δ}
    {table : String} {size : Nat} {pump : Pump σ δ α}
    (happened : Happened source sink origin outlet pump.journal pump.source pump.sink) :
    Happened source sink origin outlet (pump.step source sink table size).journal
      (pump.step source sink table size).source (pump.step source sink table size).sink := by
  unfold Pump.step
  split
  · rcases given : (source.fetch size).result pump.source with ⟨rows, after⟩
    match rows with
    | .error _ | .ok [] | .ok (_ :: _) => exact .fetch happened given
  · next held _ =>
    rcases made : (sink.write held).result pump.sink with ⟨written, after⟩
    match written with
    | .error _ => exact .write happened made
    | .ok count => exact .commit count (.write happened made)
  · exact happened

/-! ### Journals in blocks -/

section Journals

variable {size : Nat}

@[simp]
theorem filterMap_events (done : List (Delivery α)) :
    (done.flatMap (Delivery.events size)).filterMap PumpEvent.delivery? = done := by
  induction done with
  | nil => rfl
  | cons first rest ih =>
    rw [List.flatMap_cons, List.filterMap_append, ih]
    rfl

theorem countP_isFetch_events (done : List (Delivery α)) :
    (done.flatMap (Delivery.events size)).countP PumpEvent.isFetch = done.length := by
  induction done with
  | nil => rfl
  | cons first rest ih =>
    rw [List.flatMap_cons, List.countP_append, ih, List.length_cons, Nat.add_comm]
    rfl

theorem not_isFailure_of_mem_events {done : List (Delivery α)} {event : PumpEvent α}
    (member : event ∈ done.flatMap (Delivery.events size)) : event.isFailure = false := by
  obtain ⟨delivery, _, inside⟩ := List.mem_flatMap.mp member
  simp only [Delivery.events, List.mem_cons, List.not_mem_nil, or_false] at inside
  rcases inside with rfl | rfl | rfl <;> rfl

/-- A closing delivers nothing. -/
theorem Closing.filterMap_events (closing : Closing α) :
    (closing.events size).filterMap PumpEvent.delivery? = [] := by
  cases closing <;> rfl

/-- The result of a closing is a fault exactly if one of its events failed. -/
theorem Closing.exists_isFailure_iff (closing : Closing α) (table : String) (batches : Nat) :
    (∃ event ∈ closing.events size, event.isFailure = true) ↔
      ∃ fault, closing.result table batches = .error fault := by
  cases closing <;> simp [events, result, PumpEvent.isFailure]

/-- Nothing that a closing did before its last event failed. -/
theorem Closing.not_isFailure_of_mem_dropLast {closing : Closing α} {event : PumpEvent α}
    (member : event ∈ (closing.events size).dropLast) : event.isFailure = false := by
  cases closing with
  | short => cases member
  | exhausted => cases member
  | unread fault => cases member
  | unwritten rows fault =>
    simp only [events, List.dropLast_cons_cons, List.dropLast_singleton, List.mem_singleton]
      at member
    rw [member]
    rfl

end Journals

/-! ### Between two steps -/

namespace Pump

/-- **A pump that has not ended**, with the batches delivered so far and the rows that it holds: the
journal has a block of events for each batch, then what is still open; the rows of the list are
those delivered, those held and those still in the source; and no batch so far was short. -/
structure IsOpen (remaining : σ → List α) (size : Nat) (available : List α) (pump : Pump σ δ α)
    (done : List (Delivery α)) (held : List α) (pending : List (PumpEvent α)) : Prop where
  journal : pump.journal.reverse = done.flatMap (Delivery.events size) ++ pending
  split : available = done.flatMap Delivery.rows ++ (held ++ remaining pump.source)
  full : done.length * size ≤ (done.flatMap Delivery.rows).length

/-- **A pump that has ended**, with the batches delivered and the closing after them. -/
structure IsClosed (table : String) (size : Nat) (available : List α) (pump : Pump σ δ α)
    (done : List (Delivery α)) (closing : Closing α) : Prop where
  journal : pump.journal.reverse = done.flatMap (Delivery.events size) ++ closing.events size
  ended : pump.phase = .ended (closing.result table done.length)
  inOrder : done.flatMap Delivery.rows <+: available
  complete : closing.result table done.length = .ok () → done.flatMap Delivery.rows = available
  fetches : pump.fetches * size ≤ available.length + size

/-- **What is true between any two steps**, of the batches delivered so far. -/
structure Traces (remaining : σ → List α) (table : String) (size : Nat) (available : List α)
    (pump : Pump σ δ α) (done : List (Delivery α)) : Prop where
  batches : pump.batches = done.length
  rows : pump.rows = ((done.map Delivery.written).sum : Nat)
  phase : match pump.phase with
    | .fetching => pump.IsOpen remaining size available done [] []
    | .writing held =>
      pump.IsOpen remaining size available done held [.fetch size (.ok held)] ∧
        (held.length < size → remaining pump.source = [])
    | .ended _ => ∃ closing, pump.IsClosed table size available done closing

/-- There are batches of which a pump keeps the trace. -/
def IsTraced (remaining : σ → List α) (table : String) (size : Nat) (available : List α)
    (pump : Pump σ δ α) : Prop :=
  ∃ done, pump.Traces remaining table size available done

section Steps

variable {source : RowSource σ α} {remaining : σ → List α} {sink : BatchSink δ α} {table : String}
  {size : Nat} {available : List α}

/-- A pump before its first fetch has delivered nothing. -/
theorem isTraced_start (origin : σ) (outlet : δ) :
    (start origin outlet : Pump σ δ α).IsTraced remaining table size (remaining origin) :=
  ⟨[], rfl, rfl, rfl, rfl, Nat.zero_mul size ▸ Nat.zero_le _⟩

/-- How many fetches a journal in blocks holds. -/
theorem fetches_of_journal {pump : Pump σ δ α} {done : List (Delivery α)}
    {rest : List (PumpEvent α)}
    (journal : pump.journal.reverse = done.flatMap (Delivery.events size) ++ rest) :
    pump.fetches = done.length + rest.countP PumpEvent.isFetch := by
  rw [fetches, ← List.countP_reverse, journal, List.countP_append, countP_isFetch_events]

/-- Batches that are not short leave room for one more fetch. -/
theorem IsOpen.fetches_le {pump : Pump σ δ α} {done : List (Delivery α)} {held : List α}
    {pending : List (PumpEvent α)}
    (traced : pump.IsOpen remaining size available done held pending) :
    (done.length + 1) * size ≤ available.length + size := by
  have within : done.length * size ≤ available.length := by
    rw [traced.split, List.length_append]
    exact Nat.le_add_right_of_le traced.full
  rw [Nat.succ_mul]
  omega

/-- What was delivered is the front of what was available. -/
theorem IsOpen.inOrder {pump : Pump σ δ α} {done : List (Delivery α)} {held : List α}
    {pending : List (PumpEvent α)}
    (traced : pump.IsOpen remaining size available done held pending) :
    done.flatMap Delivery.rows <+: available := by
  rw [traced.split]
  exact List.prefix_append _ _

/-- **A fetch keeps the trace.** -/
theorem isTraced_fetched (honest : source.Gives remaining) (positive : 0 < size)
    {pump : Pump σ δ α} (traced : pump.IsTraced remaining table size available)
    (fetching : pump.phase = .fetching) {rows : Except Fault (List α)} {after : σ}
    (given : (source.fetch size).result pump.source = (rows, after)) :
    (pump.fetched size after rows).IsTraced remaining table size available := by
  obtain ⟨done, batches, counted, phase⟩ := traced
  rw [fetching] at phase
  have journal := phase.journal
  rw [List.append_nil] at journal
  refine ⟨done, ?_⟩
  match rows with
  | .error fault =>
    have trace : (pump.fetched size after (.error fault)).journal.reverse =
        done.flatMap (Delivery.events size) ++ (Closing.unread fault).events size := by
      rw [fetched, List.reverse_cons, journal]
      rfl
    refine ⟨batches, counted, .unread fault, trace, rfl, phase.inOrder, ?_, ?_⟩
    · rintro ⟨⟩
    · rw [fetches_of_journal trace]
      exact phase.fetches_le
  | .ok [] =>
    -- Nothing is less than was asked for, so nothing is left.
    have nothing : remaining pump.source = [] := by
      rw [honest.inOrder given, honest.shortAtEnd given positive]
      rfl
    have trace : (pump.fetched size after (.ok [])).journal.reverse =
        done.flatMap (Delivery.events size) ++ Closing.exhausted.events size := by
      rw [fetched, List.reverse_cons, journal]
      rfl
    refine ⟨batches, counted, .exhausted, trace, rfl, phase.inOrder, fun _ => ?_, ?_⟩
    · rw [phase.split, nothing, List.append_nil, List.append_nil]
    · rw [fetches_of_journal trace]
      exact phase.fetches_le
  | .ok (row :: rest) =>
    refine ⟨batches, counted, ⟨?_, ?_, phase.full⟩, honest.shortAtEnd given⟩
    · rw [fetched, List.reverse_cons, journal]
    · rw [phase.split, honest.inOrder given]
      rfl

/-- **A write keeps the trace.** -/
theorem isTraced_wrote {pump : Pump σ δ α}
    (traced : pump.IsTraced remaining table size available) {held : List α}
    (writing : pump.phase = .writing held) (written : Except Fault Nat) (after : δ) :
    (pump.wrote table size held after written).IsTraced remaining table size available := by
  obtain ⟨done, batches, counted, phase⟩ := traced
  rw [writing] at phase
  obtain ⟨phase, short⟩ := phase
  match written with
  | .error fault =>
    have trace : (pump.wrote table size held after (.error fault)).journal.reverse =
        done.flatMap (Delivery.events size) ++ (Closing.unwritten held fault).events size := by
      rw [wrote, List.reverse_cons, phase.journal, List.append_assoc]
      rfl
    refine ⟨done, batches, counted, .unwritten held fault, trace, ?_, phase.inOrder, ?_, ?_⟩
    · rw [wrote, batches]
      rfl
    · rintro ⟨⟩
    · rw [fetches_of_journal trace]
      exact phase.fetches_le
  | .ok count =>
    let delivery : Delivery α := ⟨held, count⟩
    have trace : (pump.wrote table size held after (.ok count)).journal.reverse =
        (done ++ [delivery]).flatMap (Delivery.events size) := by
      rw [wrote, List.reverse_cons, List.reverse_cons, phase.journal, List.flatMap_append,
        List.append_assoc, List.append_assoc]
      rfl
    have rows : (done ++ [delivery]).flatMap Delivery.rows =
        done.flatMap Delivery.rows ++ held := by
      rw [List.flatMap_append, List.flatMap_singleton]
    have length : (done ++ [delivery]).length = done.length + 1 := List.length_append
    refine ⟨done ++ [delivery], ?_, ?_, ?_⟩
    · rw [length, ← batches]
      rfl
    · rw [wrote, counted, List.map_append, List.sum_append]
      rfl
    · by_cases last : held.length < size
      · have whole : (done ++ [delivery]).flatMap Delivery.rows = available := by
          rw [rows, phase.split, short last, List.append_nil]
        have ended : (pump.wrote table size held after (.ok count)).phase = .ended (.ok ()) :=
          if_pos last
        rw [ended]
        refine ⟨.short, trace.trans (List.append_nil _).symm, ended, ?_, fun _ => whole, ?_⟩
        · exact ⟨[], by rw [whole, List.append_nil]⟩
        · rw [fetches_of_journal (trace.trans (List.append_nil _).symm), length]
          exact phase.fetches_le
      · have fetching : (pump.wrote table size held after (.ok count)).phase = .fetching :=
          if_neg last
        rw [fetching]
        refine ⟨trace.trans (List.append_nil _).symm, ?_, ?_⟩
        · rw [rows, phase.split, List.append_assoc]
          rfl
        · have full := phase.full
          rw [length, rows, List.length_append, Nat.succ_mul]
          omega

/-- **Every step keeps the trace.** -/
theorem isTraced_step (honest : source.Gives remaining) (positive : 0 < size) {pump : Pump σ δ α}
    (traced : pump.IsTraced remaining table size available) :
    (pump.step source sink table size).IsTraced remaining table size available := by
  unfold step
  split
  · next fetching => exact isTraced_fetched honest positive traced fetching rfl
  · next held writing => exact isTraced_wrote traced writing _ _
  · exact traced

/-- What every step keeps is true after a run. -/
theorem run_induction {motive : Pump σ δ α → Prop} {pump : Pump σ δ α} (first : motive pump)
    (next : ∀ {before : Pump σ δ α}, motive before → motive (before.step source sink table size)) :
    motive (pump.run source sink table size) := by
  fun_induction run source sink table size pump with
  | case1 before _ ih => exact ih (next first)
  | case2 last _ => exact first

end Steps

end Pump

/-- **The journal of a pump that was run is what happened** between the source and the sink. -/
theorem happened_pumpRows (source : RowSource σ α) (sink : BatchSink δ α) (table : String)
    (batchSize : Nat) (origin : σ) (outlet : δ) :
    let pump := pumpRows source sink table batchSize origin outlet
    Happened source sink origin outlet pump.journal pump.source pump.sink :=
  Pump.run_induction (motive := fun pump : Pump σ δ α =>
    Happened source sink origin outlet pump.journal pump.source pump.sink) .nothing happened_step

/-! ### The whole run -/

/-- **The account of a pump that was run**, over the rows that its source had.

* `ended`, `fetches` — it has ended, after one fetch more than there are full batches at most;
* `happened` — its journal is what happened between the source and the sink;
* `inOrder`, `complete` — what it delivered is the front of the rows, and all of them if it did not
  fail;
* `batches`, `rows` — it counted the batches delivered and what their writes counted (as no write
  counts less than nothing, no sum on the way is greater than the last);
* `paced` — its journal is a fetch, a write and a note of the count for each batch delivered, in
  this order, and then a closing, of which it has the result: the fault of a fetch as it is, that of
  a write with the table and the number of the batch;
* `failed`, `lastFailure` — it has a fault exactly if a fetch or a write failed, and nothing was
  done after that. -/
structure Pump.IsAccounted (source : RowSource σ α) (sink : BatchSink δ α) (origin : σ)
    (outlet : δ) (table : String) (size : Nat) (available : List α) (pump : Pump σ δ α) :
    Prop where
  ended : pump.hasEnded = true
  happened : Happened source sink origin outlet pump.journal pump.source pump.sink
  fetches : pump.fetches ≤ available.length / size + 1
  inOrder : pump.delivered <+: available
  complete : pump.result = .ok () → pump.delivered = available
  batches : pump.batches = pump.deliveries.length
  rows : pump.rows = ((pump.deliveries.map Delivery.written).sum : Nat)
  paced : ∃ closing : Closing α,
    pump.journal.reverse =
        pump.deliveries.flatMap (Delivery.events size) ++ closing.events size ∧
      pump.result = closing.result table pump.batches
  failed : (∃ fault, pump.result = .error fault) ↔
    ∃ event ∈ pump.journal, event.isFailure = true
  lastFailure : ∀ event ∈ pump.journal.tail, event.isFailure = false

namespace Pump

/-- The deliveries of a journal in blocks are its blocks. -/
theorem deliveries_of_journal {size : Nat} {pump : Pump σ δ α} {done : List (Delivery α)}
    {closing : Closing α}
    (journal : pump.journal.reverse =
      done.flatMap (Delivery.events size) ++ closing.events size) : pump.deliveries = done := by
  rw [deliveries, journal, List.filterMap_append, filterMap_events, closing.filterMap_events,
    List.append_nil]

/-- A failure in a journal in blocks is in its closing. -/
theorem exists_isFailure_of_journal {size : Nat} {pump : Pump σ δ α} {done : List (Delivery α)}
    {closing : Closing α}
    (journal : pump.journal.reverse =
      done.flatMap (Delivery.events size) ++ closing.events size) :
    (∃ event ∈ pump.journal, event.isFailure = true) ↔
      ∃ event ∈ closing.events size, event.isFailure = true := by
  constructor
  · rintro ⟨event, member, failed⟩
    rw [← List.mem_reverse, journal, List.mem_append] at member
    rcases member with early | late
    · rw [not_isFailure_of_mem_events early] at failed
      cases failed
    · exact ⟨event, late, failed⟩
  · rintro ⟨event, member, failed⟩
    refine ⟨event, ?_, failed⟩
    rw [← List.mem_reverse, journal]
    exact List.mem_append_right _ member

/-- Nothing in a journal in blocks failed before the last event. -/
theorem not_isFailure_of_journal {size : Nat} {pump : Pump σ δ α} {done : List (Delivery α)}
    {closing : Closing α}
    (journal : pump.journal.reverse =
      done.flatMap (Delivery.events size) ++ closing.events size) :
    ∀ event ∈ pump.journal.tail, event.isFailure = false := by
  intro event member
  have earlier : event ∈ pump.journal.reverse.dropLast := by
    rw [List.dropLast_reverse]
    exact List.mem_reverse.mpr member
  rw [journal] at earlier
  by_cases short : closing.events size = []
  · rw [short, List.append_nil] at earlier
    exact not_isFailure_of_mem_events ((List.dropLast_sublist _).subset earlier)
  · rw [List.dropLast_append_of_ne_nil short, List.mem_append] at earlier
    rcases earlier with early | late
    · exact not_isFailure_of_mem_events early
    · exact Closing.not_isFailure_of_mem_dropLast late

/-- A trace that has come to its end is an account. -/
theorem IsClosed.isAccounted {source : RowSource σ α} {sink : BatchSink δ α} {origin : σ}
    {outlet : δ} {table : String} {size : Nat} {available : List α} {pump : Pump σ δ α}
    {done : List (Delivery α)} {closing : Closing α} (positive : 0 < size)
    (happened : Happened source sink origin outlet pump.journal pump.source pump.sink)
    (closed : pump.IsClosed table size available done closing)
    (batches : pump.batches = done.length)
    (rows : pump.rows = ((done.map Delivery.written).sum : Nat)) :
    pump.IsAccounted source sink origin outlet table size available := by
  have made : pump.deliveries = done := deliveries_of_journal closed.journal
  have result : pump.result = closing.result table done.length := by
    rw [Pump.result, closed.ended]
  refine ⟨?_, happened, ?_, ?_, ?_, ?_, ?_, ⟨closing, ?_, ?_⟩, ?_,
    not_isFailure_of_journal closed.journal⟩
  · rw [hasEnded, closed.ended]
  · have bound := closed.fetches
    rw [← Nat.add_div_right _ positive, Nat.le_div_iff_mul_le positive]
    exact bound
  · rw [delivered, made]
    exact closed.inOrder
  · rw [delivered, made, result]
    exact closed.complete
  · rw [made, batches]
  · rw [made, rows]
  · rw [made]
    exact closed.journal
  · rw [result, batches]
  · rw [result, exists_isFailure_of_journal closed.journal, closing.exists_isFailure_iff]

end Pump

/-- **A pump accounts for every row**, whatever its source fails to give and its sink answers. -/
theorem pumpRows_isAccounted {source : RowSource σ α} {remaining : σ → List α}
    (honest : source.Gives remaining) (sink : BatchSink δ α) (table : String) (batchSize : Nat)
    (origin : σ) (outlet : δ) :
    (pumpRows source sink table batchSize origin outlet).IsAccounted source sink origin outlet table
      (Pump.fetchSize batchSize) (remaining origin) := by
  have positive : 0 < Pump.fetchSize batchSize :=
    Nat.lt_of_lt_of_le Nat.one_pos (Nat.le_max_right ..)
  have traced : (pumpRows source sink table batchSize origin outlet).IsTraced remaining table
      (Pump.fetchSize batchSize) (remaining origin) :=
    Pump.run_induction (Pump.isTraced_start origin outlet)
      fun traced => Pump.isTraced_step honest positive traced
  obtain ⟨done, batches, rows, phase⟩ := traced
  have happened := happened_pumpRows source sink table batchSize origin outlet
  have ended : (pumpRows source sink table batchSize origin outlet).hasEnded = true :=
    Pump.run_ended _ _ _ _ _
  unfold Pump.hasEnded at ended
  split at ended
  · next result shape =>
    rw [shape] at phase
    obtain ⟨closing, closed⟩ := phase
    exact closed.isAccounted positive happened batches rows
  · cases ended

/-- Five rows, two at a time: the second write counts seven rows and the third fetch fails. -/
theorem pumpRows_isAccounted_unreliable :
    let source := RowSource.unreliable Nat
    let sink := BatchSink.script Nat
    let origin : List Nat × List (Option Fault) :=
      ([1, 2, 3, 4, 5], [none, none, some (.task "gone")])
    let outlet : List (Option (Except Fault Nat)) := [none, some (.ok 7)]
    source.Gives Prod.fst ∧
      (pumpRows source sink "users" 2 origin outlet).IsAccounted source sink origin outlet "users" 2
        [1, 2, 3, 4, 5] := by
  intro source sink origin outlet
  exact ⟨unreliable_gives Nat,
    pumpRows_isAccounted (unreliable_gives Nat) sink "users" 2 origin outlet⟩

end SchemaFerry.Copy
