/-
**Outcomes of single items.**

Work that goes on after a failure keeps one outcome for each item: it succeeded, it was skipped or
it failed, the last two with a reason. `Tally` counts them.

* `Tally.total_ofOutcomes`: every outcome is counted once.
-/

import SchemaFerry.Json.Basic

namespace SchemaFerry.Report

/-- How an item ended. -/
inductive Status where
  | success
  | skipped (reason : String)
  | failed (reason : String)
  deriving Repr, DecidableEq

/-- An item and how it ended. -/
structure Outcome where
  item : String
  status : Status
  deriving Repr, DecidableEq

namespace Outcome

/-- An item that succeeded. -/
def succeeded (item : String) : Outcome :=
  ⟨item, .success⟩

/-- An item that was skipped. -/
def skipped (item reason : String) : Outcome :=
  ⟨item, .skipped reason⟩

/-- An item that failed. -/
def failed (item reason : String) : Outcome :=
  ⟨item, .failed reason⟩

/-- Whether the item succeeded. -/
def isSuccess (outcome : Outcome) : Bool :=
  outcome.status == .success

/-- Whether the item failed. -/
def isFailure (outcome : Outcome) : Bool :=
  match outcome.status with
  | .failed _ => true
  | _ => false

/-! ### JSON -/

/-- The members of an object for an outcome. -/
def members (outcome : Outcome) : List (String × Json) :=
  match outcome.status with
  | .success => [("item", .string outcome.item), ("status", .string "success")]
  | .skipped reason =>
    [("item", .string outcome.item), ("status", .string "skipped"), ("reason", .string reason)]
  | .failed reason =>
    [("item", .string outcome.item), ("status", .string "failed"), ("reason", .string reason)]

/-- An outcome as a JSON value. -/
def toJson (outcome : Outcome) : Json :=
  .object outcome.members

/-- Reads an outcome from an object. The status is given by its name or by its number. -/
def ofJson? (value : Json) : Option Outcome := do
  let item ← (← value.member? "item").text?
  let reason := (value.member? "reason").bind Json.text?
  match ← value.member? "status" with
  | .string "success" | .int 0 => return succeeded item
  | .string "skipped" | .int 1 => return skipped item (← reason)
  | .string "failed" | .int 2 => return failed item (← reason)
  | _ => none

end Outcome

/-- How many items ended in each way. -/
structure Tally where
  succeeded : Nat
  skipped : Nat
  failed : Nat
  deriving Repr, DecidableEq

namespace Tally

/-- The tally with one more outcome. -/
def add (tally : Tally) (outcome : Outcome) : Tally :=
  match outcome.status with
  | .success => { tally with succeeded := tally.succeeded + 1 }
  | .skipped _ => { tally with skipped := tally.skipped + 1 }
  | .failed _ => { tally with failed := tally.failed + 1 }

/-- The tally of outcomes. -/
def ofOutcomes (outcomes : List Outcome) : Tally :=
  outcomes.foldl add ⟨0, 0, 0⟩

/-- All items of a tally. -/
def total (tally : Tally) : Nat :=
  tally.succeeded + tally.skipped + tally.failed

/-- A tally as a JSON value. -/
def toJson (tally : Tally) : Json :=
  .object [("succeeded", .int tally.succeeded), ("skipped", .int tally.skipped),
    ("failed", .int tally.failed)]

theorem total_add (tally : Tally) (outcome : Outcome) :
    (tally.add outcome).total = tally.total + 1 := by
  unfold add total
  split <;> simp only <;> omega

theorem total_foldl (outcomes : List Outcome) (tally : Tally) :
    (outcomes.foldl add tally).total = tally.total + outcomes.length := by
  induction outcomes generalizing tally with
  | nil => simp
  | cons outcome rest hypothesis =>
    rw [List.foldl_cons, hypothesis, total_add, List.length_cons]
    omega

/-- Every outcome is counted once. -/
theorem total_ofOutcomes (outcomes : List Outcome) :
    (ofOutcomes outcomes).total = outcomes.length := by
  rw [ofOutcomes, total_foldl]
  simp [total]

end Tally

end SchemaFerry.Report
