/-
**The catalog of the source.**

What the program asks the source about its tables. `describeEach` describes tables in turn and goes
on when one cannot be described; `countRows` adds up row counts and gives up at the first that
fails.
-/

import SchemaFerry.Schema.Warning
import SchemaFerry.Session

namespace SchemaFerry.Schema

/-- The questions to a catalog; each names the schema first. -/
structure Catalog (σ : Type) where
  listTables : String → Session σ (List String)
  describe : String → String → Session σ Table
  rowCount : String → String → Session σ Int

variable {σ : Type}

/-- Describes tables in turn: those that could be described, and a warning for each other. -/
def Catalog.describeEach (catalog : Catalog σ) (schema : String) :
    List String → StateM σ (List Table × List Warning)
  | [] => pure ([], [])
  | name :: rest => do
    let described ← (catalog.describe schema name).attempt
    let (tables, warnings) ← catalog.describeEach schema rest
    match described with
    | .ok table => pure (table :: tables, warnings)
    | .error fault => pure (tables, .undescribed name fault.message :: warnings)

/-- The sum of the row counts of tables; nothing if one cannot be counted. -/
def Catalog.countRows (catalog : Catalog σ) (schema : String) (total : Int) :
    List String → StateM σ (Option Int)
  | [] => pure (some total)
  | name :: rest => do
    match ← (catalog.rowCount schema name).attempt with
    | .ok count => catalog.countRows schema (total + count) rest
    | .error _ => pure none

end SchemaFerry.Schema
