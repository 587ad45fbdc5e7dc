/-
**What a copy leaves in a portal.**

The rows of a projection wait in a portal, which gives as many of them as it is asked for while it
has so many (`GivesRows`). No more than `largestFetch` can be asked for at a time; what a pump asks
for beyond this is cut down to it (`Source.Server.rows`). So a fetch may come short of the size of a
batch although there are more rows, and the pump takes a batch that is short for the last one.

* `rows_fetch_isPortioned` — what a fetch gives and what it leaves in the portal;
* **`pumpRows_emptiesPortal`** — a copy that is reported as complete has written all rows of the
  portal, in their order, if the size of a batch is at most `largestFetch`, and only the first
  `largestFetch` of them otherwise;
* `pumpRows_leaves_row` — a copy of `largestFetch + 1` rows is reported as complete without the last
  of them.
-/

import SchemaFerry.Proofs.Copy.Accounting
import SchemaFerry.Proofs.Session
import SchemaFerry.Settings.Check
import SchemaFerry.Source.Memory

namespace SchemaFerry.Copy

open SchemaFerry.Source (WireRow)

variable {σ δ : Type}

/-! ### Portals -/

/-- The most rows that a portal can be asked for at a time. -/
def largestFetch : Nat := 0x7FFFFFFF

/-- **A portal gives the first of its unread rows**, as many as it is asked for or all of them. -/
def GivesRows (server : Source.Server σ) (transaction : Nat) (unread : σ → List WireRow) : Prop :=
  ∀ ⦃count : Nat⦄ ⦃state after : σ⦄ ⦃rows : List WireRow⦄, 0 < count → count ≤ largestFetch →
    (server.fetch transaction count).result state = (.ok rows, after) →
      rows = (unread state).take count ∧ unread after = (unread state).drop count

/-- Rows as they are sent, and their values as they are read. -/
def AreRead (columns : List WireColumn) : List WireRow → List (List Value) → Prop :=
  List.Forall₂ fun row values => readRow columns row = .ok values

theorem areRead_of_mapM {columns : List WireColumn} {rows : List WireRow}
    {values : List (List Value)} (read : rows.mapM (readRow columns) = .ok values) :
    AreRead columns rows values := by
  induction rows generalizing values with
  | nil =>
    cases read
    exact .nil
  | cons row rest ih =>
    rw [List.mapM_cons] at read
    cases first : readRow columns row with
    | error fault =>
      rw [first] at read
      cases read
    | ok value =>
      cases others : rest.mapM (readRow columns) with
      | error fault =>
        rw [first, others] at read
        cases read
      | ok more =>
        rw [first, others] at read
        cases read
        exact .cons first (ih others)

/-- Values are fetched exactly if rows are, no more than can be asked for, and all of them are
read. -/
theorem rows_fetch_eq_ok_iff {server : Source.Server σ} {transaction count : Nat}
    {columns : List WireColumn} {state after : σ} {values : List (List Value)} :
    ((server.rows transaction columns).fetch count).result state = (.ok values, after) ↔
      ∃ rows, (server.fetch transaction (min count largestFetch)).result state = (.ok rows, after) ∧
        rows.mapM (readRow columns) = .ok values := by
  refine Session.result_bind_eq_ok_iff.trans (exists_congr fun rows => ?_)
  simp only [Session.ofExcept, Session.result_ofFunction, Prod.mk.injEq]
  constructor
  · rintro ⟨_, fetched, read, rfl⟩
    exact ⟨fetched, read⟩
  · rintro ⟨fetched, read⟩
    exact ⟨after, fetched, read, rfl⟩

/-- The rows that a fetch takes from a portal, of which some are left there. -/
structure IsPortion (columns : List WireColumn) (most : Nat) (unread taken left : List WireRow)
    (values : List (List Value)) : Prop where
  split : unread = taken ++ left
  read : AreRead columns taken values
  within : values.length ≤ most
  shortAtEnd : values.length < most → left = []

/-- **What a fetch gives**: rows from the front, fewer than were asked for and can be asked for only
at their end. -/
theorem rows_fetch_isPortioned {server : Source.Server σ} {transaction count : Nat}
    {unread : σ → List WireRow} (gives : GivesRows server transaction unread)
    {columns : List WireColumn} (positive : 0 < count) {state after : σ}
    {values : List (List Value)}
    (given : ((server.rows transaction columns).fetch count).result state = (.ok values, after)) :
    ∃ taken, IsPortion columns (min count largestFetch) (unread state) taken (unread after)
      values := by
  obtain ⟨rows, fetched, valued⟩ := rows_fetch_eq_ok_iff.mp given
  have read := areRead_of_mapM valued
  have asked : 0 < min count largestFetch := Nat.lt_min.mpr ⟨positive, by decide⟩
  obtain ⟨taken, left⟩ := gives asked (Nat.min_le_right ..) fetched
  have length : values.length = min (min count largestFetch) (unread state).length := by
    rw [← read.length_eq, taken, List.length_take]
  refine ⟨rows, ?_, read, ?_, fun short => ?_⟩
  · rw [taken, left, List.take_append_drop]
  · rw [length]
    exact Nat.min_le_left ..
  · rw [left]
    refine List.drop_eq_nil_of_le ?_
    omega

/-- The rows that a pump comes to: all of them, or as many as it can ask for at a time if this is
less than the size of its batches. -/
def withinReach (size : Nat) (available : List WireRow) : List WireRow :=
  if size ≤ largestFetch then available else available.take largestFetch

theorem withinReach_of_length_le {size : Nat} {available : List WireRow}
    (few : available.length ≤ largestFetch) : withinReach size available = available := by
  rw [withinReach, List.take_of_length_le few, ite_self]

theorem withinReach_prefix (size : Nat) (available : List WireRow) :
    withinReach size available <+: available := by
  unfold withinReach
  split
  · exact List.prefix_refl _
  · exact List.take_prefix _ _

/-- **A batch that is short completes the rows within reach**, if it is the first one wherever more
is asked for than can be. -/
theorem append_eq_withinReach {columns : List WireColumn} {size : Nat}
    {available done rest taken left : List WireRow} {values : List (List Value)}
    (few : done = [] ∨ size ≤ largestFetch) (split : available = done ++ rest)
    (portion : IsPortion columns (min size largestFetch) rest taken left values)
    (short : values.length < size) : done ++ taken = withinReach size available := by
  have within := portion.within
  by_cases small : size ≤ largestFetch
  · rw [withinReach, if_pos small, split, portion.split, portion.shortAtEnd (by omega),
      List.append_nil]
  · have first : done = [] := few.resolve_right small
    rw [first, List.nil_append] at split ⊢
    rw [split, portion.split]
    by_cases least : values.length < min size largestFetch
    · rw [portion.shortAtEnd least, List.append_nil, withinReach_of_length_le]
      rw [portion.read.length_eq]
      omega
    · -- The batch is all that can be asked for at a time, whatever is left behind it.
      have length : taken.length = largestFetch := by
        rw [portion.read.length_eq]
        omega
      rw [withinReach, if_neg small, ← length, List.take_left]

/-- Rows within reach are all of them exactly if they are as many. -/
theorem areRead_iff_of_withinReach {columns : List WireColumn} {size : Nat}
    {available : List WireRow} {values : List (List Value)}
    (read : AreRead columns (withinReach size available) values) :
    AreRead columns available values ↔
      size ≤ largestFetch ∨ available.length ≤ largestFetch := by
  constructor
  · intro whole
    by_contra neither
    obtain ⟨large, many⟩ := not_or.mp neither
    rw [withinReach, if_neg large] at read
    have lengths := read.length_eq.trans whole.length_eq.symm
    rw [List.length_take] at lengths
    omega
  · rintro (small | few)
    · rwa [withinReach, if_pos small] at read
    · rwa [withinReach_of_length_le few] at read

namespace Pump

/-! ### Between two steps -/

/-- What was delivered without the last batch, and that batch. -/
theorem delivered_wrote_ok {α : Type} (pump : Pump σ δ α) (table : String) (size : Nat)
    (rows : List α) (sink : δ) (written : Nat) :
    (pump.wrote table size rows sink (.ok written)).delivered = pump.delivered ++ rows := by
  rw [delivered, deliveries_wrote_ok, List.flatMap_append, List.flatMap_singleton]
  rfl

section Steps

variable {server : Source.Server σ} {transaction : Nat} {unread : σ → List WireRow}
  {columns : List WireColumn} {size : Nat} {available : List WireRow}

/-- **What is true between any two steps**: what was delivered are the values of the first rows.
Another fetch is made only after batches of the full size; so if this is more than can be asked for
at a time, there is only one. -/
def IsEmptying (unread : σ → List WireRow) (columns : List WireColumn) (size : Nat)
    (available : List WireRow) (pump : Pump σ δ (List Value)) : Prop :=
  ∃ done, AreRead columns done pump.delivered ∧
    match pump.phase with
    | .fetching => available = done ++ unread pump.source ∧ (done = [] ∨ size ≤ largestFetch)
    | .writing held => (done = [] ∨ size ≤ largestFetch) ∧ ∃ rest taken, available = done ++ rest ∧
      IsPortion columns (min size largestFetch) rest taken (unread pump.source) held
    | .ended (.ok ()) => done = withinReach size available
    | .ended (.error _) => done <+: available

theorem isEmptying_start (origin : σ) (outlet : δ) :
    (start origin outlet : Pump σ δ (List Value)).IsEmptying unread columns size
      (unread origin) :=
  ⟨[], .nil, rfl, .inl rfl⟩

/-- **A fetch leaves in the portal what it does not take.** -/
theorem isEmptying_fetched (gives : GivesRows server transaction unread) (positive : 0 < size)
    {pump : Pump σ δ (List Value)} (emptying : pump.IsEmptying unread columns size available)
    (fetching : pump.phase = .fetching) {values : Except Fault (List (List Value))} {after : σ}
    (given : ((server.rows transaction columns).fetch size).result pump.source =
      (values, after)) :
    (pump.fetched size after values).IsEmptying unread columns size available := by
  obtain ⟨done, read, phase⟩ := emptying
  rw [fetching] at phase
  obtain ⟨split, few⟩ := phase
  have same : (pump.fetched size after values).delivered = pump.delivered := by
    rw [delivered, deliveries_fetched, delivered]
  refine ⟨done, same ▸ read, ?_⟩
  cases values with
  | error fault => exact ⟨_, split.symm⟩
  | ok values =>
    obtain ⟨taken, portion⟩ := rows_fetch_isPortioned gives positive given
    cases values with
    | nil =>
      have nothing : taken = [] := List.length_eq_zero_iff.mp portion.read.length_eq
      have whole := append_eq_withinReach few split portion positive
      rw [nothing, List.append_nil] at whole
      exact whole
    | cons row rest => exact ⟨few, _, taken, split, portion⟩

/-- **A write delivers what was taken from the portal.** -/
theorem isEmptying_wrote {pump : Pump σ δ (List Value)}
    (emptying : pump.IsEmptying unread columns size available) {held : List (List Value)}
    (writing : pump.phase = .writing held) (table : String) (written : Except Fault Nat)
    (after : δ) :
    (pump.wrote table size held after written).IsEmptying unread columns size available := by
  obtain ⟨done, read, phase⟩ := emptying
  rw [writing] at phase
  obtain ⟨few, rest, taken, split, portion⟩ := phase
  match written with
  | .error fault =>
    have same : (pump.wrote table size held after (.error fault)).delivered = pump.delivered := by
      rw [delivered, deliveries_wrote_error, delivered]
    exact ⟨done, same ▸ read, _, split.symm⟩
  | .ok count =>
    have more := pump.delivered_wrote_ok table size held after count
    refine ⟨done ++ taken, more ▸ List.rel_append read portion.read, ?_⟩
    by_cases last : held.length < size
    · have ended : (pump.wrote table size held after (.ok count)).phase = .ended (.ok ()) :=
        if_pos last
      rw [ended]
      exact append_eq_withinReach few split portion last
    · have fetching : (pump.wrote table size held after (.ok count)).phase = .fetching :=
        if_neg last
      rw [fetching]
      have within := portion.within
      exact ⟨by rw [split, portion.split, List.append_assoc]; rfl, .inr (by omega)⟩

/-- **Every step keeps to the portal.** -/
theorem isEmptying_step (gives : GivesRows server transaction unread) (positive : 0 < size)
    {sink : BatchSink δ (List Value)} {table : String} {pump : Pump σ δ (List Value)}
    (emptying : pump.IsEmptying unread columns size available) :
    (pump.step (server.rows transaction columns) sink table size).IsEmptying unread columns size
      available := by
  unfold step
  split
  · next fetching => exact isEmptying_fetched gives positive emptying fetching rfl
  · next held writing => exact isEmptying_wrote emptying writing _ _ _
  · exact emptying

end Steps

/-! ### The whole run -/

/-- A pump that has ended is in the phase of its result. -/
theorem phase_of_hasEnded {α : Type} {pump : Pump σ δ α} (ended : pump.hasEnded = true) :
    pump.phase = .ended pump.result := by
  unfold hasEnded at ended
  unfold result
  split at ended
  · next shape => rw [shape]
  · cases ended

/-- A pump that ends with a fault has a failure in its journal, and no other one has. -/
def IsFrank {α : Type} (pump : Pump σ δ α) : Prop :=
  (∃ fault, pump.phase = .ended (.error fault)) ↔
    ∃ event ∈ pump.journal, event.isFailure = true

theorem isFrank_fetched {α : Type} {pump : Pump σ δ α}
    (quiet : ∀ event ∈ pump.journal, event.isFailure = false) (size : Nat) (after : σ)
    (rows : Except Fault (List α)) : (pump.fetched size after rows).IsFrank := by
  cases rows with
  | error fault => exact iff_of_true ⟨fault, rfl⟩ ⟨_, List.mem_cons_self, rfl⟩
  | ok rows =>
    have going : ¬∃ fault, (pump.fetched size after (.ok rows)).phase = .ended (.error fault) := by
      rintro ⟨fault, same⟩
      cases rows <;> cases same
    refine iff_of_false going ?_
    cases rows <;> simpa [fetched, PumpEvent.isFailure] using quiet

theorem isFrank_wrote {α : Type} {pump : Pump σ δ α}
    (quiet : ∀ event ∈ pump.journal, event.isFailure = false) (table : String) (size : Nat)
    (held : List α) (after : δ) (written : Except Fault Nat) :
    (pump.wrote table size held after written).IsFrank := by
  match written with
  | .error fault => exact iff_of_true ⟨_, rfl⟩ ⟨_, List.mem_cons_self, rfl⟩
  | .ok count =>
    refine iff_of_false ?_ (by simpa [wrote, PumpEvent.isFailure] using quiet)
    rintro ⟨fault, same⟩
    simp only [wrote] at same
    split at same <;> cases same

/-- **Every step is frank**, whatever its source gives and its sink answers. -/
theorem isFrank_step {α : Type} {source : RowSource σ α} {sink : BatchSink δ α} {table : String}
    {size : Nat} {pump : Pump σ δ α} (frank : pump.IsFrank) :
    (pump.step source sink table size).IsFrank := by
  have quiet : (∀ fault, pump.phase ≠ .ended (.error fault)) →
      ∀ event ∈ pump.journal, event.isFailure = false := by
    intro going event member
    rw [← Bool.not_eq_true]
    intro failed
    obtain ⟨fault, ended⟩ := frank.mpr ⟨event, member, failed⟩
    exact going fault ended
  unfold step
  split
  · next fetching => exact isFrank_fetched (quiet (by simp [fetching])) _ _ _
  · next held writing => exact isFrank_wrote (quiet (by simp [writing])) _ _ _ _ _
  · exact frank

/-- **What a copy from a portal wrote**, with `available` the rows of the portal at its start.

* `ended`, `failed` — it has ended, and with a fault exactly if a fetch or a write failed;
* `happened` — its journal is what happened between the portal and the sink;
* `inOrder` — whatever failed, what it wrote are the values of the first rows;
* `complete` — if nothing failed, these are the rows within its reach;
* `whole_iff` — they are all rows exactly if the size of its batches can be asked for at a time, or
  there are no more rows than can be. -/
structure EmptiesPortal (source : RowSource σ (List Value)) (sink : BatchSink δ (List Value))
    (origin : σ) (outlet : δ) (columns : List WireColumn) (size : Nat) (available : List WireRow)
    (pump : Pump σ δ (List Value)) : Prop where
  ended : pump.hasEnded = true
  happened : Happened source sink origin outlet pump.journal pump.source pump.sink
  failed : (∃ fault, pump.result = .error fault) ↔
    ∃ event ∈ pump.journal, event.isFailure = true
  inOrder : ∃ done, done <+: available ∧ AreRead columns done pump.delivered
  complete : pump.result = .ok () → AreRead columns (withinReach size available) pump.delivered
  whole_iff : pump.result = .ok () → (AreRead columns available pump.delivered ↔
    size ≤ largestFetch ∨ available.length ≤ largestFetch)

/-- **A copy that is run to its end** accounts for the rows of the portal. -/
theorem emptiesPortal_pumpRows {server : Source.Server σ} {transaction : Nat}
    {unread : σ → List WireRow} (gives : GivesRows server transaction unread)
    (columns : List WireColumn) (sink : BatchSink δ (List Value)) (table : String)
    (batchSize : Nat) (origin : σ) (outlet : δ) :
    (pumpRows (server.rows transaction columns) sink table batchSize origin outlet).EmptiesPortal
      (server.rows transaction columns) sink origin outlet columns (fetchSize batchSize)
      (unread origin) := by
  have positive : 0 < fetchSize batchSize :=
    Nat.lt_of_lt_of_le Nat.one_pos (Nat.le_max_right ..)
  generalize shape : pumpRows (server.rows transaction columns) sink table batchSize origin outlet =
    pump
  have happened := shape ▸
    happened_pumpRows (server.rows transaction columns) sink table batchSize origin outlet
  have ended : pump.hasEnded = true := shape ▸ run_ended _ _ _ _ _
  have frank : pump.IsFrank :=
    shape ▸ run_induction (by simp [IsFrank, start]) isFrank_step
  have emptying : pump.IsEmptying unread columns (fetchSize batchSize) (unread origin) :=
    shape ▸ run_induction (isEmptying_start origin outlet)
      (isEmptying_step gives positive)
  obtain ⟨done, read, phase⟩ := emptying
  rw [IsFrank, phase_of_hasEnded ended] at frank
  rw [phase_of_hasEnded ended] at phase
  have complete : pump.result = .ok () →
      AreRead columns (withinReach (fetchSize batchSize) (unread origin)) pump.delivered := by
    intro well
    rw [well] at phase
    exact phase ▸ read
  refine ⟨ended, happened, ?_, ⟨done, ?_, read⟩, complete, fun well =>
    areRead_iff_of_withinReach (complete well)⟩
  · simpa only [PumpPhase.ended.injEq] using frank
  · cases well : pump.result with
    | error fault =>
      rw [well] at phase
      exact phase
    | ok _ =>
      rw [well] at phase
      exact phase ▸ withinReach_prefix _ _

end Pump

/-- **A fetch comes short only at the end of the portal**, unless more is asked for than can be. -/
def IsShortAtEnd (server : Source.Server σ) (transaction : Nat) (unread : σ → List WireRow)
    (columns : List WireColumn) : Prop :=
  ∀ ⦃count : Nat⦄ ⦃state after : σ⦄ ⦃values : List (List Value)⦄,
    ((server.rows transaction columns).fetch count).result state = (.ok values, after) →
      values.length < count →
        unread after = [] ∨ (largestFetch < count ∧ values.length = largestFetch)

/-- **A copy from a portal that ends without a fault has written all rows within its reach.** -/
theorem pumpRows_emptiesPortal {server : Source.Server σ} {transaction : Nat}
    {unread : σ → List WireRow} (gives : GivesRows server transaction unread)
    (columns : List WireColumn) (sink : BatchSink δ (List Value)) (table : String)
    (batchSize : Nat) (origin : σ) (outlet : δ) :
    IsShortAtEnd server transaction unread columns ∧
      (pumpRows (server.rows transaction columns) sink table batchSize origin
        outlet).EmptiesPortal (server.rows transaction columns) sink origin outlet columns
          (Pump.fetchSize batchSize) (unread origin) := by
  refine ⟨fun count state after values given short => ?_,
    Pump.emptiesPortal_pumpRows gives columns sink table batchSize origin outlet⟩
  obtain ⟨taken, portion⟩ := rows_fetch_isPortioned gives (Nat.zero_lt_of_lt short) given
  by_cases least : values.length < min count largestFetch
  · exact .inl (portion.shortAtEnd least)
  · have most := portion.within
    exact .inr ⟨by omega, by omega⟩

end SchemaFerry.Copy

namespace SchemaFerry.Source.Memory

open SchemaFerry.Copy

/-! ### A source in memory -/

/-- The rows that are still to be fetched in a transaction. -/
def unreadIn (transaction : Nat) (memory : Memory) : List WireRow :=
  memory.unread[transaction]?.getD []

/-- **A source in memory has portals.** -/
theorem givesRows (transaction : Nat) : GivesRows server transaction (unreadIn transaction) := by
  intro count memory after rows _ _ given
  obtain ⟨held, found, taken, changed⟩ := fetch_eq_ok given
  have within := (List.getElem?_eq_some_iff.mp found).1
  rw [unreadIn, unreadIn, found, changed, List.getElem?_set_self within]
  exact ⟨taken, rfl⟩

/-- A source with nothing but the rows of one portal. -/
def withPortal (rows : List WireRow) : Memory :=
  ⟨[], [], true, [], [rows], [], []⟩

/-- What a fetch gives of a portal. -/
theorem fetch_withPortal (rows : List WireRow) (count : Nat) :
    (server.fetch 0 count).result (withPortal rows) =
      (.ok (rows.take count),
        { withPortal rows with unread := [rows.drop count], calls := [.fetch count] }) := rfl

end SchemaFerry.Source.Memory

namespace SchemaFerry.Copy

open SchemaFerry.Source (WireRow)

variable {σ δ : Type}

namespace Pump

theorem run_of_active {α : Type} {source : RowSource σ α} {sink : BatchSink δ α} {table : String}
    {size : Nat} {pump : Pump σ δ α} (active : pump.hasEnded = false) :
    pump.run source sink table size =
      (pump.step source sink table size).run source sink table size := by
  rw [run, dif_pos active]

theorem run_of_ended {α : Type} {source : RowSource σ α} {sink : BatchSink δ α} {table : String}
    {size : Nat} {pump : Pump σ δ α} (ended : pump.hasEnded = true) :
    pump.run source sink table size = pump := by
  rw [run, dif_neg (by rw [ended]; exact nofun)]

/-- A pump whose first batch is short writes that batch and ends. -/
theorem run_of_short {α : Type} {source : RowSource σ α} {sink : BatchSink δ α} (table : String)
    {size written : Nat} {origin after : σ} {outlet final : δ} {held : List α} (present : held ≠ [])
    (short : held.length < size)
    (given : (source.fetch size).result origin = (.ok held, after))
    (put : (sink.write held).result outlet = (.ok written, final)) :
    (start origin outlet).run source sink table size =
      ⟨after, final, .ended (.ok ()), written, 1,
        [.commit written, .write held (.ok written), .fetch size (.ok held)]⟩ := by
  obtain ⟨row, rest, rfl⟩ := List.exists_cons_of_ne_nil present
  have fetched : (start origin outlet).step source sink table size =
      ⟨after, outlet, .writing (row :: rest), 0, 0, [.fetch size (.ok (row :: rest))]⟩ := by
    simp only [step, start, given, Pump.fetched]
  have wrote : (⟨after, outlet, .writing (row :: rest), 0, 0,
      [.fetch size (.ok (row :: rest))]⟩ : Pump σ δ α).step source sink table size =
        ⟨after, final, .ended (.ok ()), written, 1,
          [.commit written, .write (row :: rest) (.ok written),
            .fetch size (.ok (row :: rest))]⟩ := by
    simp only [step, put, Pump.wrote, if_pos short, Int.zero_add, Nat.zero_add]
  calc (start origin outlet).run source sink table size
      = ((start origin outlet).step source sink table size).run source sink table size :=
        run_of_active rfl
    _ = _ := by rw [fetched]
    _ = _ := run_of_active rfl
    _ = _ := by rw [wrote]
    _ = _ := run_of_ended rfl

end Pump

/-- Rows that are the same are read alike. -/
theorem mapM_replicate {columns : List WireColumn} {row : WireRow} {values : List Value}
    (read : readRow columns row = .ok values) (count : Nat) :
    (List.replicate count row).mapM (readRow columns) = .ok (List.replicate count values) := by
  induction count with
  | zero => rfl
  | succ count ih =>
    rw [List.replicate_succ, List.mapM_cons, read, ih]
    rfl

/-- **A copy in larger batches than can be asked for ends with the first one**, however many rows
the portal has. -/
theorem pumpRows_cut {columns : List WireColumn} {row : WireRow} {values : List Value}
    (read : readRow columns row = .ok values) (table : String) {batchSize count : Nat}
    (large : largestFetch < batchSize) (many : largestFetch ≤ count) :
    let pump := pumpRows (Source.Memory.server.rows 0 columns) (BatchSink.script (List Value)) table
      batchSize (.withPortal (List.replicate count row)) []
    pump.result = .ok () ∧ (∀ event ∈ pump.journal, event.isFailure = false) ∧
      pump.delivered = List.replicate largestFetch values := by
  have size : Pump.fetchSize batchSize = batchSize := Nat.max_eq_left (Nat.zero_lt_of_lt large)
  have length : (List.replicate largestFetch values).length = largestFetch := List.length_replicate
  have present : List.replicate largestFetch values ≠ [] :=
    List.ne_nil_of_length_pos (length.symm ▸ by decide)
  have portal := Source.Memory.fetch_withPortal (List.replicate count row) largestFetch
  rw [List.take_replicate, Nat.min_eq_left many, ← Nat.min_eq_right large.le] at portal
  have given := rows_fetch_eq_ok_iff.mpr ⟨_, portal, mapM_replicate read _⟩
  rw [Nat.min_eq_right large.le] at given
  dsimp only
  rw [pumpRows, size, Pump.run_of_short table present (length.trans_lt large) given rfl]
  refine ⟨rfl, ?_, List.append_nil _⟩
  simp [PumpEvent.isFailure]

/-- A column of numbers. -/
def numbers : List WireColumn := [⟨⟨"id", .known "int8"⟩, "int8"⟩]

/-- A row with the number one. -/
def rowOfOne : WireRow := [some [0, 0, 0, 0, 0, 0, 0, 1]]

theorem readRow_rowOfOne : readRow numbers rowOfOne = .ok [.integer (some 1)] := by
  rfl

/-- Five rows, two at a time: the third fetch fails. -/
theorem pumpRows_emptiesPortal_interrupted :
    let memory : Source.Memory :=
      { Source.Memory.withPortal (List.replicate 5 rowOfOne) with
        failures := [⟨"fetch", 3, "connection reset", 0⟩] }
    let source := Source.Memory.server.rows 0 numbers
    let sink := BatchSink.script (List Value)
    GivesRows Source.Memory.server 0 (Source.Memory.unreadIn 0) ∧
      IsShortAtEnd Source.Memory.server 0 (Source.Memory.unreadIn 0) numbers ∧
      (pumpRows source sink "events" 2 memory []).EmptiesPortal source sink memory [] numbers 2
        (List.replicate 5 rowOfOne) := by
  intro memory source sink
  have gives := Source.Memory.givesRows 0
  exact ⟨gives, pumpRows_emptiesPortal gives numbers sink "events" 2 memory []⟩

/-- **A row is lost**: with settings that are accepted, a copy of one row more than can be asked for
at a time ends well, and does not write that row. -/
theorem pumpRows_leaves_row :
    let settings : CopySettings := { CopySettings.standard with batchSize := 2147483648 }
    let rows : List WireRow := List.replicate 2147483648 rowOfOne
    let pump := pumpRows (Source.Memory.server.rows 0 numbers) (BatchSink.script (List Value))
      "events" settings.batchSize (.withPortal rows) []
    settings.check = .ok () ∧ pump.result = .ok () ∧
      (∀ event ∈ pump.journal, event.isFailure = false) ∧
      pump.delivered.length + 1 = rows.length := by
  intro settings rows pump
  have large : largestFetch < 2147483648 := by decide
  obtain ⟨well, quiet, delivered⟩ := pumpRows_cut readRow_rowOfOne "events" large large.le
  refine ⟨rfl, well, quiet, ?_⟩
  rw [delivered, List.length_replicate, List.length_replicate]
  rfl

end SchemaFerry.Copy
