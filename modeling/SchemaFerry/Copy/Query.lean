/-
**Statements of a copy.**

A table, or the select that replaces it, is read through a projection that gives every column the
form of its kind; the rows are written by one statement with a placeholder for each column.
-/

import SchemaFerry.Copy.Kind
import SchemaFerry.Copy.Mapping

namespace SchemaFerry.Copy

/-- A name with its schema in a statement for the source. -/
def sourceQualified (schema name : String) : String :=
  Identifier.sourceQuoted schema ++ "." ++ Identifier.sourceQuoted name

/-- The query that gives the rows of a table. -/
def baseQuery (schema : String) (mapping : TableMapping) : String :=
  match mapping.select with
  | some select => select
  | none => "SELECT * FROM " ++ sourceQualified schema mapping.source

/-- A column of a projection, under its own name. -/
def BoundColumn.projected (column : BoundColumn) : String :=
  column.kind.projection column.type column.name ++ " AS " ++ Identifier.sourceQuoted column.name

/-- The rows of a query with every column in the form of its kind. -/
def projection (base : String) (columns : List BoundColumn) : String :=
  "SELECT " ++ ", ".intercalate (columns.map BoundColumn.projected) ++
    " FROM (" ++ base ++ ") AS src"

/-- The placeholders of columns, by their positions from one on. -/
def placeholders (columns : List BoundColumn) : List String :=
  columns.zipIdx.map fun (column, index) => column.kind.placeholder (index + 1)

/-- The statement that writes rows to a table. -/
def insertion (schema table : String) (columns : List BoundColumn) : String :=
  "INSERT INTO " ++ Identifier.qualified schema table ++ " (" ++
    ", ".intercalate (columns.map fun column => Identifier.written column.name) ++ ") VALUES (" ++
    ", ".intercalate (placeholders columns) ++ ")"

/-- The query that counts the rows of a table. -/
def countQuery (schema table : String) : String :=
  "SELECT COUNT(*)::int8 FROM " ++ sourceQualified schema table

/-- The statement that limits the time of the statements of a transaction. -/
def timeoutStatement (seconds : Nat) : String :=
  "SET LOCAL statement_timeout = " ++ toString (seconds * 1000)

end SchemaFerry.Copy
