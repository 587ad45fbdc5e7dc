/-
**Sources and sinks in memory.**

A cursor gives the rows of a list in order. A script gives what it lists, one fetch or one write at
a time: rows or a fault, or how many rows count as written.
-/

import SchemaFerry.Copy.Pump

namespace SchemaFerry.Copy

/-- The rows of a list in order. -/
def RowSource.cursor (α : Type) : RowSource (List α) α where
  fetch count := Session.ofFunction fun rows => (.ok (rows.take count), rows.drop count)
  left := List.length
  left_lt := by
    intro count state after rows given present
    simp only [Session.result_ofFunction, Prod.mk.injEq, Except.ok.injEq] at given
    obtain ⟨rfl, rfl⟩ := given
    cases count with
    | zero => simp at present
    | succ count =>
      cases state with
      | nil => simp at present
      | cons row rest => simp only [List.length_drop, List.length_cons]; omega

/-- Answers in order, and no rows after the last of them. -/
def RowSource.script (α : Type) : RowSource (List (Except Fault (List α))) α where
  fetch _ := Session.ofFunction fun answers =>
    match answers with
    | [] => (.ok [], [])
    | answer :: rest => (answer, rest)
  left := List.length
  left_lt := by
    intro count state after rows given present
    cases state with
    | nil => simp_all
    | cons answer rest => simp_all

/-- Answers in order; where there is none, all rows count as written. -/
def BatchSink.script (α : Type) : BatchSink (List (Option (Except Fault Nat))) α where
  write rows := Session.ofFunction fun answers =>
    match answers with
    | [] => (.ok rows.length, [])
    | answer :: rest => (answer.getD (.ok rows.length), rest)

end SchemaFerry.Copy
