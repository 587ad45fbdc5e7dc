/-
**What a run does to the two databases.**

Each call of a run goes to the source or to the destination. If all calls to the source move it along
a relation, and those to the destination move it along another one, then both databases are moved so
(`World.Along`) by the preparation of a run (`prepare_along`), by the answer that the copy of a table
needs (`ask_along`), and by a whole course of the copies (`Fleet.Course.along`).

The runs of a small shop in memory are examples of what happens: it has users and orders, and may be
told which call to its destination is to fail.
-/

import SchemaFerry.Proofs.Run.Course
import SchemaFerry.Proofs.Source.Lock
import SchemaFerry.Proofs.Target.Toggling

namespace SchemaFerry.Run

open SchemaFerry.Copy

/-- Each of the two databases was moved along a relation of its own. -/
structure World.Along {σ δ : Type} (related : σ → σ → Prop) (connected : δ → δ → Prop)
    (before after : World σ δ) : Prop where
  source : related before.source after.source
  target : connected before.target after.target

section Along

variable {σ δ α : Type}

variable {related : σ → σ → Prop} {connected : δ → δ → Prop} {servers : Servers σ δ}
  {schema : String} {plan : CopyPlan}

namespace World

theorem along_through
    (source : ∀ before between after, related before between → related between after →
      related before after)
    (target : ∀ before between after, connected before between → connected between after →
      connected before after) (before between after : World σ δ)
    (first : Along related connected before between)
    (later : Along related connected between after) : Along related connected before after :=
  ⟨source _ _ _ first.source later.source, target _ _ _ first.target later.target⟩

theorem onSource_along (still : ∀ state, connected state state) {call : Session σ α}
    (moves : call.Moves related) :
    (onSource call : Session (World σ δ) α).Moves (Along related connected) :=
  fun world => ⟨moves world.source, still world.target⟩

theorem onTarget_along (still : ∀ state, related state state) {call : Session δ α}
    (moves : call.Moves connected) :
    (onTarget call : Session (World σ δ) α).Moves (Along related connected) :=
  fun world => ⟨still world.source, moves world.target⟩

end World

theorem openTable_along (reading : servers.source.MovesBesidesLock related)
    (writing : servers.target.MovesAlong schema connected) (mapping : TableMapping) :
    (openTable servers plan mapping).Moves (World.Along related connected) := by
  have still := writing.sequences.still
  have through := World.along_through reading.through writing.sequences.through
  refine (World.onSource_along still reading.beginReading).next through fun transaction => ?_
  refine (World.onSource_along still (reading.limitTime _ _)).next through fun _ => ?_
  refine (World.onSource_along still (reading.prepare _ _)).next through fun columns => ?_
  have opens : ∀ _ : PUnit, (do
      let types ← World.onSource (servers.source.openRows transaction
        (projection (baseQuery plan.sourceSchema mapping) columns))
      let session ← World.onTarget servers.target.openSession
      return (⟨transaction, wireColumns columns types, session,
        insertion plan.targetSchema mapping.target columns⟩ : OpenTable) :
        Session (World σ δ) OpenTable).Moves (World.Along related connected) := by
    intro _
    refine (World.onSource_along still (reading.openRows _ _)).next through fun _ => ?_
    exact (World.onTarget_along reading.still writing.openSession).andThen _
  dsimp only
  split
  · exact Session.Moves.next (fun world => ⟨reading.still _, still world.target⟩) through opens
  · exact opens ⟨⟩

/-- A copy that asks for what it needs moves both databases along. -/
theorem ask_along (reading : servers.source.MovesBesidesLock related)
    (writing : servers.target.MovesBesides schema connected) (plan : CopyPlan) (copy : TableCopy)
    (world : World σ δ) :
    World.Along related connected world ((copy.ask servers plan).run world).2 := by
  have still := writing.sequences.still
  unfold TableCopy.ask
  split
  · exact openTable_along reading writing.toMovesAlong copy.mapping world
  · next table _ =>
    have fetched := reading.rows table.transaction table.columns copy.size
    exact World.onSource_along still fetched world
  · next table rows _ =>
    have written := Target.Writer.moves_writeBatch still writing.sequences.through
      (writing.writer table.session) table.statement rows
    exact World.onTarget_along reading.still written world
  · exact World.onSource_along still (reading.endReading _) world
  · exact ⟨reading.still _, still _⟩

theorem Fleet.Happens.along {fleet later : Fleet} {event : Fleet.Event} {world after : World σ δ}
    (reading : servers.source.MovesBesidesLock related)
    (writing : servers.target.MovesBesides schema connected)
    (happens : Happens servers plan fleet world event later after) :
    World.Along related connected world after := by
  cases happens with
  | start | leave | crash => exact ⟨reading.still _, writing.sequences.still _⟩
  | reply copy _ asked _ =>
    have moved := ask_along reading writing plan copy world
    rwa [asked] at moved

/-- **A course** moves both databases along, whatever happens on it. -/
theorem Fleet.Course.along {first later : Fleet} {events : List Fleet.Event}
    {world after : World σ δ} (reading : servers.source.MovesBesidesLock related)
    (writing : servers.target.MovesBesides schema connected)
    (course : Course servers plan first world events later after) :
    World.Along related connected world after := by
  induction course with
  | rest => exact ⟨reading.still _, writing.sequences.still _⟩
  | more _ happens ih =>
    exact World.along_through reading.through writing.sequences.through _ _ _ ih
      (happens.along reading writing)

/-- What leads up to the first change of the destination moves both databases along. -/
theorem prepare_along (reading : servers.source.MovesBesidesLock related)
    (writing : servers.target.MovesAlong schema connected) (job : Job) :
    (prepare servers job).Moves (World.Along related connected) := by
  have still := writing.sequences.still
  have through := World.along_through reading.through writing.sequences.through
  have noted : ∀ step, (World.note step : Session (World σ δ) Unit).Moves
      (World.Along related connected) := fun _ world => ⟨reading.still _, still world.target⟩
  refine (noted _).next through fun _ => ?_
  refine (World.onSource_along still (reading.openPool _ _)).next through fun _ => ?_
  refine (noted _).next through fun _ => ?_
  refine (World.onTarget_along reading.still (writing.openPool _ _)).next through fun _ => ?_
  refine (noted _).next through fun _ => ?_
  refine (World.onSource_along still (reading.discover _ _)).next through fun mappings => ?_
  refine (noted _).next through fun _ => ?_
  exact (World.onSource_along still (reading.countTables _ _ _)).andThen _

end Along

/-! ### The runs of a shop -/

namespace Shop

/-- A table with identifiers and nothing else. -/
def table (name : String) (identifiers : List UInt8) : Source.Relation :=
  ⟨name, [], [], [], [], identifiers.length, sourceQualified "public" name, none,
    [⟨⟨"id", .known "int8"⟩, "int8"⟩], identifiers.map fun octet => [some [0, 0, 0, 0, 0, 0, 0, octet]]⟩

/-- Three users and an order. -/
def source : Source.Memory :=
  ⟨["users", "orders"], [table "users" [1, 2, 3], table "orders" [4]], true, [], [], [], []⟩

/-- A destination with foreign keys, some of which are stuck, and failures planned. -/
def target (constraints : List (Constraints.Key × String)) (stuck : List String)
    (failures : List PlannedFailure) : Target.Memory :=
  ⟨constraints, stuck, [], [], [], [], failures, []⟩

def servers : Servers Source.Memory Target.Memory :=
  ⟨Source.Memory.server, Target.Memory.server⟩

/-- A run by two workers that move two rows at a time. -/
def job : Job :=
  let connection : Connection := ⟨"postgresql://db/shop", "ferry", "", "public", none, "disable"⟩
  ⟨connection, connection, ⟨2, 2, 600, 30, 7, [], []⟩, ⟨"run", ⟨0, 0⟩, ⟨0, 0⟩, 0, fun _ => 0⟩⟩

def tables : List TableMapping :=
  [⟨"users", "USERS", none⟩, ⟨"orders", "ORDERS", none⟩]

/-- Both tables are opened, and moved in turns to their end. -/
def turns : List Fleet.Turn :=
  [.start, .start, .advance 1, .advance 0, .advance 1, .advance 0, .advance 0, .advance 1,
    .advance 0, .advance 0, .advance 0, .advance 0, .advance 1]

end Shop

end SchemaFerry.Run
