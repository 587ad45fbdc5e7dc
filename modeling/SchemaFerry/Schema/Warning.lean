/-
**Warnings of the script.**

A warning says that the script differs from the source: a table is missing, an object has another
name, a type or a default is approximated, an index is left out.
-/

import SchemaFerry.Schema.ColumnType

namespace SchemaFerry.Schema

/-- A difference between the source and the script. -/
inductive Warning where
  | undescribed (table reason : String)
  | tableRenamed (table wanted given : String)
  | sequenceRenamed (table wanted given : String)
  | lossyType (table column typeName : String) (loss : Loss) (given : ColumnType)
  | defaultOmitted (table column expression : String)
  | indexSkipped (table index : String) (columns : List String)
  deriving Repr, DecidableEq

/-- The wording of a warning. -/
def Warning.message : Warning → String
  | undescribed table reason => "Failed to process table " ++ table ++ ": " ++ reason
  | tableRenamed table wanted given =>
    "Table " ++ table ++ ": destination name " ++ wanted ++ " already taken, renamed to " ++ given
  | sequenceRenamed table wanted given =>
    "Table " ++ table ++ ": sequence name " ++ wanted ++ " already taken, renamed to " ++ given
  | lossyType table column typeName loss given =>
    "Table " ++ table ++ ", column " ++ column ++ ": " ++ loss.description ++ " type '" ++
      typeName ++ "' mapped to " ++ given.written
  | defaultOmitted table column expression =>
    "Table " ++ table ++ ", column " ++ column ++ ": default expression '" ++ expression ++
      "' omitted"
  | indexSkipped table index columns =>
    "Table " ++ table ++ ": index " ++ index ++ " skipped, columns (" ++
      ", ".intercalate columns ++ ") are already indexed"

/-- The warning for a column whose type is mapped with a loss. -/
def Column.typeWarning? (table : String) (column : Column) : Option Warning :=
  column.mapping.loss.map fun loss =>
    .lossyType table column.name column.typeName loss column.mapping.type

end SchemaFerry.Schema
