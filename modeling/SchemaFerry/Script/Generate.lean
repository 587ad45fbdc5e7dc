/-
**The script of a schema.**

Lists the tables of a schema, describes each and builds the script of those that could be
described. Only a failed listing ends the work; a table that cannot be described is a warning.
-/

import SchemaFerry.Schema.Catalog
import SchemaFerry.Script.Build
import SchemaFerry.Script.Layout

namespace SchemaFerry.Script

open SchemaFerry.Schema

/-- What a script is wanted for. The target schema is the source's if it is not given. -/
structure Request where
  sourceSchema : String
  targetSchema : Option String
  editRole : Option String
  viewRole : Option String
  editUsers : List String
  viewUsers : List String
  deriving Repr

/-- The schema that the script creates its objects in. -/
def Request.schema (request : Request) : String :=
  match request.targetSchema.map Text.trimmed with
  | some name => if name.isEmpty then request.sourceSchema else name
  | none => request.sourceSchema

/-- How the script is built. -/
def Request.options (request : Request) : Options where
  schema := request.schema
  roles := Roles.resolve (some request.schema) request.editRole request.viewRole
  editUsers := roleUsers request.editUsers
  viewUsers := roleUsers request.viewUsers

/-- A finished script. -/
structure Document where
  tableCount : Nat
  text : String
  warnings : List Warning
  deriving Repr

/-- A finished script as a JSON value. -/
def Document.toJson (document : Document) : Json :=
  .object [("table_count", .int document.tableCount), ("script", .string document.text),
    ("warnings", Json.strings (document.warnings.map Warning.message))]

/-- The script of a schema. -/
def generate {σ : Type} (catalog : Catalog σ) (request : Request) : Session σ Document := do
  let names ← catalog.listTables request.sourceSchema
  let (tables, undescribed) ← catalog.describeEach request.sourceSchema names
  let (sections, warnings) := build tables request.options
  return ⟨tableCount sections, text sections, undescribed ++ warnings⟩

end SchemaFerry.Script
