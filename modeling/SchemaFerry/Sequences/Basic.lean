/-
**Catching sequences up.**

After a copy every sequence must give a number greater than every identifier in the table that draws
from it. A sequence is named after its table; where the name was cut, the table is the only one
whose name starts like that. A sequence that is behind is moved by setting its step to the distance,
drawing once and setting the step back to one, whether or not the draw failed. The distance is held
in 64 bits, as the two numbers are that it lies between; where it does not fit, the work on all
sequences crashes.

* `lag_eq_behind_iff`: a sequence is behind by a distance exactly if that is positive, fits and leads
  from its last number to the greatest identifier;
* `run_synchronize`: a sequence that is named after a table has the outcome of catching it up, or
  the fault of that, unless it crashes.
-/

import SchemaFerry.Number.Whole
import SchemaFerry.Report.Outcome
import SchemaFerry.Schema.Table
import SchemaFerry.Sequences.Pattern
import SchemaFerry.Session
import SchemaFerry.Text.Split

namespace SchemaFerry.Sequences

open SchemaFerry.Report

/-- The column of identifiers of a table that draws from a sequence. -/
def identifierColumn : String := "ID"

/-- What the work on a sequence asks of the destination. -/
structure Operations (σ : Type) where
  tablesStartingWith : String → Session σ (List String)
  hasIdentifier : String → Session σ Bool
  greatestIdentifier : String → Session σ (Option Int)
  draw : String → Session σ Int
  setStep : String → Int → Session σ Unit

/-- The table that a sequence is named after. -/
def table? (sequence : String) : Option String :=
  match Text.afterLead? Schema.sequenceLead.toList sequence.toList with
  | some (first :: rest) => some (String.ofList (first :: rest))
  | _ => none

/-- What is found for the name of a table. -/
inductive Lookup where
  | found (table : String)
  | missing
  | ambiguous (tables : List String)
  deriving Repr, DecidableEq

/-- The table among those whose names start with a name: that of the very name, or else, for a
sequence whose name may have been cut, the only one. -/
def Lookup.among (sequence name : String) (candidates : List String) : Lookup :=
  if candidates.contains name then .found name
  else if sequence.length < Identifier.maxLength then .missing
  else
    match candidates with
    | [] => .missing
    | [table] => .found table
    | _ => .ambiguous candidates

variable {σ : Type}

/-- Looks for the table of a sequence, given the name that the sequence is named after. -/
def lookUp (operations : Operations σ) (sequence name : String) : Session σ Lookup := do
  return Lookup.among sequence name (← operations.tablesStartingWith name)

/-- How a sequence stands to the greatest identifier of its table: it has reached it, it is behind by
a distance, or the distance overflows 64 bits. -/
inductive Lag where
  | reached
  | behind (distance : Int)
  | overflow
  deriving Repr, DecidableEq

/-- How the last number of a sequence stands to the greatest identifier. -/
def lag (last greatest : Int) : Lag :=
  if last < greatest then
    if Number.FitsWord (greatest - last) then .behind (greatest - last) else .overflow
  else .reached

/-- Moves a sequence by a distance. The step is set back also when the draw fails. -/
def advance (operations : Operations σ) (sequence : String) (distance : Int) : Session σ Int := do
  operations.setStep sequence distance
  (operations.draw sequence).andAlways (operations.setStep sequence 1)

/-- Catches a sequence up with its table. There is no outcome if the work crashes, which it does with
the number drawn when the distance overflows. -/
def catchUp (operations : Operations σ) (sequence table : String) :
    Session σ (Option Outcome) := do
  if !(← operations.hasIdentifier table) then
    return some (.skipped sequence ("table " ++ table ++ " has no " ++ identifierColumn ++ " column"))
  match ← operations.greatestIdentifier table with
  | none => return some (.skipped sequence ("table " ++ table ++ " is empty"))
  | some greatest =>
    match lag (← operations.draw sequence) greatest with
    | .reached => return some (.succeeded sequence)
    | .overflow => return none
    | .behind distance =>
      let _ ← advance operations sequence distance
      return some (.succeeded sequence)

/-- Catches a sequence up with the table that is found for a name, unless the work crashes. -/
def catchUpNamed (operations : Operations σ) (sequence name : String) :
    Session σ (Option Outcome) := do
  match ← lookUp operations sequence name with
  | .found table => catchUp operations sequence table
  | .missing => return some (.skipped sequence ("table " ++ name ++ " does not exist"))
  | .ambiguous tables =>
    return some (.skipped sequence ("truncated name matches tables " ++ ", ".intercalate tables))

/-- Catches a sequence up; a fault is its outcome, but a crash leaves none. -/
def synchronize (operations : Operations σ) (sequence : String) : StateM σ (Option Outcome) :=
  match table? sequence with
  | none => pure (some (.skipped sequence "name has no SEQ_ prefix"))
  | some name => do
    match ← (catchUpNamed operations sequence name).attempt with
    | .ok outcome => return outcome
    | .error fault => return some (.failed sequence fault.message)

/-- Catches sequences up in turn; the first crash ends it and leaves no outcomes. -/
def synchronizeAll (operations : Operations σ) : List String → StateM σ (Option (List Outcome))
  | [] => pure (some [])
  | sequence :: rest => do
    match ← synchronize operations sequence with
    | none => return none
    | some outcome => return (← synchronizeAll operations rest).map (outcome :: ·)

/-- The text of a crash by a distance that overflows. -/
def overflowText : String := "attempt to subtract with overflow"

/-! ### Lemmas -/

theorem lag_eq_reached_iff {last greatest : Int} : lag last greatest = .reached ↔ greatest ≤ last := by
  unfold lag
  split
  · split <;> simp <;> omega
  · simp
    omega

/-- **A sequence is behind by a distance** exactly if that is positive, fits and leads from its last
number to the greatest identifier. -/
theorem lag_eq_behind_iff {last greatest distance : Int} :
    lag last greatest = .behind distance ↔
      0 < distance ∧ Number.FitsWord distance ∧ last + distance = greatest := by
  unfold lag
  split
  · next less =>
    split
    · next fits =>
      rw [Lag.behind.injEq]
      constructor
      · rintro rfl
        exact ⟨by omega, fits, by omega⟩
      · omega
    · next beyond =>
      refine ⟨nofun, fun ⟨_, fits, leads⟩ => absurd ?_ beyond⟩
      rwa [show greatest - last = distance by omega]
  · refine ⟨nofun, fun ⟨positive, _, leads⟩ => ?_⟩
    omega

/-- The distance overflows exactly if it is greater than any number of 64 bits. -/
theorem lag_eq_overflow_iff {last greatest : Int} :
    lag last greatest = .overflow ↔ Number.maxInt64 < greatest - last := by
  unfold lag
  split
  · next less =>
    have low : Number.minInt64 ≤ greatest - last :=
      Int.le_trans (by decide : Number.minInt64 ≤ 0) (by omega)
    split
    · next fits => exact ⟨nofun, fun beyond => absurd fits.2 (Int.not_le.mpr beyond)⟩
    · next beyond => exact ⟨fun _ => Int.not_le.mp fun high => beyond ⟨low, high⟩, fun _ => rfl⟩
  · refine ⟨nofun, fun beyond => ?_⟩
    have positive : 0 < greatest - last :=
      Int.lt_trans (by decide : (0 : Int) < Number.maxInt64) beyond
    omega

/-- The outcome of catching up, and the state after it, for a sequence that is named after a
table. -/
theorem run_synchronize {operations : Operations σ} {sequence name : String}
    (named : table? sequence = some name) (state : σ) :
    (synchronize operations sequence).run state =
      match (catchUpNamed operations sequence name).result state with
      | (.ok outcome, after) => (outcome, after)
      | (.error fault, after) => (some (.failed sequence fault.message), after) := by
  have attempted : (catchUpNamed operations sequence name).attempt.run state =
    (catchUpNamed operations sequence name).result state := rfl
  unfold synchronize
  rw [named]
  dsimp only
  rw [StateT.run_bind, attempted]
  rcases (catchUpNamed operations sequence name).result state with ⟨fault | outcome, after⟩
  · rfl
  · rfl

end SchemaFerry.Sequences
