/-
**Reports of copies.**

A report of a finished copy says for each table how it ended, how many rows and batches were
committed and how long that took, and for the steps around the copy what became of each constraint
and sequence. Durations are floating point numbers, held as words.
-/

import SchemaFerry.Json.Printer
import SchemaFerry.Report.Outcome
import SchemaFerry.Time.Calendar

namespace SchemaFerry.Report

/-- How the copy of a table ended; the item of its outcome is the name in the source. -/
structure TableResult where
  outcome : Outcome
  target : String
  rows : Int
  batches : Nat
  seconds : UInt64
  deriving Repr, DecidableEq

/-- A table that was copied. -/
def TableResult.copied (source target : String) (rows : Int) (batches : Nat) (seconds : UInt64) :
    TableResult :=
  ⟨.succeeded source, target, rows, batches, seconds⟩

/-- A table of which nothing was copied. -/
def TableResult.failed (source target reason : String) : TableResult :=
  ⟨.failed source reason, target, 0, 0, 0⟩

/-- A finished copy. -/
structure CopyReport where
  runId : String
  started : Time.Moment
  completed : Time.Moment
  seconds : UInt64
  sourceSchema : String
  targetSchema : String
  estimatedRows : Option Int
  rows : Int
  rowsPerSecond : Int
  tables : List TableResult
  tally : Tally
  disabled : List Outcome
  sequences : List Outcome
  enabled : List Outcome
  deriving Repr, DecidableEq

namespace CopyReport

/-- The names of the tables that failed, in order. -/
def failedTables (report : CopyReport) : List String :=
  (report.tables.filter (·.outcome.isFailure)).map (·.outcome.item)

/-- What became of the constraints and sequences, in the order of the steps. -/
def steps (report : CopyReport) : List Outcome :=
  report.disabled ++ report.sequences ++ report.enabled

/-- Whether nothing failed. -/
def isClean (report : CopyReport) : Bool :=
  report.tally.failed == 0 && report.steps.all (!·.isFailure)

end CopyReport

/-- How a copy ended: not at all, since another one was going on, or with a report. -/
inductive RunOutcome where
  | skipped (reason : String)
  | completed (report : CopyReport)
  deriving Repr, DecidableEq

/-! ### JSON -/

/-- A table's result as a JSON value. -/
def TableResult.toJson (result : TableResult) : Json :=
  .object (result.outcome.members ++ [("dest", .string result.target), ("rows", .int result.rows),
    ("batches", .int result.batches), ("duration_secs", .float result.seconds)])

/-- The members of an object for a report. -/
def CopyReport.members (report : CopyReport) : List (String × Json) :=
  [("run_id", .string report.runId), ("started_at", .string report.started.text),
    ("completed_at", .string report.completed.text), ("duration_seconds", .float report.seconds),
    ("source_schema", .string report.sourceSchema), ("dest_schema", .string report.targetSchema),
    ("estimated_rows", Json.ofOption .int report.estimatedRows),
    ("rows_transferred", .int report.rows), ("rows_per_second", .int report.rowsPerSecond),
    ("tables", .array (report.tables.map TableResult.toJson)),
    ("table_counts", report.tally.toJson),
    ("foreign_keys_disabled", .array (report.disabled.map Outcome.toJson)),
    ("sequences", .array (report.sequences.map Outcome.toJson)),
    ("foreign_keys_enabled", .array (report.enabled.map Outcome.toJson))]

/-- How a copy ended, as a JSON value. -/
def RunOutcome.toJson : RunOutcome → Json
  | skipped reason => .object [("outcome", .string "skipped"), ("reason", .string reason)]
  | completed report => .object (("outcome", .string "completed") :: report.members)

end SchemaFerry.Report
