/-
**Tables of the source.**

A table as the catalog of the source describes it: its columns, primary key, indexes and foreign
keys, and the name of the sequence that the destination needs for it, if a column draws from one.
-/

import SchemaFerry.Identifier.Basic
import SchemaFerry.Json.Basic

namespace SchemaFerry.Schema

open SchemaFerry.Text

/-- A column. Its type has a general name and an underlying one; sizes are whole numbers of 32
bits, present where the catalog gives them. -/
structure Column where
  name : String
  dataType : String
  underlyingType : String
  length : Option Int
  precision : Option Int
  scale : Option Int
  isNullable : Bool
  default : Option String
  isAutoIncrement : Bool
  deriving Repr, DecidableEq

/-- An index other than the primary key. -/
structure Index where
  name : String
  isUnique : Bool
  columns : List String
  deriving Repr, DecidableEq

/-- A foreign key, with the name of its delete action. -/
structure ForeignKey where
  name : String
  columns : List String
  referencedTable : String
  referencedColumns : List String
  onDelete : String
  deriving Repr, DecidableEq

/-- A table. -/
structure Table where
  schema : String
  name : String
  columns : List Column
  primaryKey : List String
  indexes : List Index
  foreignKeys : List ForeignKey
  sequence : Option String
  deriving Repr, DecidableEq

/-- A table of which nothing but the name is known. -/
def Table.named (schema name : String) : Table :=
  ⟨schema, name, [], [], [], [], none⟩

/-- The name with its schema. -/
def Table.fullName (table : Table) : String :=
  table.schema ++ "." ++ table.name

/-- Whether the table has a primary key. -/
def Table.hasPrimaryKey (table : Table) : Bool :=
  !table.primaryKey.isEmpty

/-- The front of the name of every conventional sequence. -/
def sequenceLead : String := "SEQ_"

/-- The conventional name of the sequence of a table. -/
def sequenceName (table : String) : String :=
  Identifier.truncate Identifier.maxLength (sequenceLead ++ uppercased table)

/-- Whether a default expression draws from a sequence. -/
def isSequenceCall (expression : String) : Bool :=
  "nextval(".toList.isPrefixOf (lower (trimStart expression.toList))

/-- The type name that decides the column's type in the destination: the general name, unless it is
empty or says that the type is user-defined and there is an underlying one. -/
def Column.typeName (column : Column) : String :=
  let general := trimmed column.dataType
  let underlying := trimmed column.underlyingType
  if (general.isEmpty || sameLetters general "USER-DEFINED") && !underlying.isEmpty then underlying
  else general

/-- Whether the column's default draws from a sequence. -/
def Column.hasSequenceDefault (column : Column) : Bool :=
  column.default.any isSequenceCall

/-- The table with its sequence set exactly if a column is filled automatically. -/
def Table.withSequence (table : Table) : Table :=
  let wanted := table.columns.any (·.isAutoIncrement)
  { table with sequence := if wanted then some (sequenceName table.name) else none }

/-! ### JSON -/

/-- Reads a column. -/
def Column.ofJson? (value : Json) : Option Column := do
  let record ← Json.Record.of? 9 value
  return {
    name := ← record.required? 0 "name" Json.text?
    dataType := ← record.required? 1 "data_type" Json.text?
    underlyingType := ← record.required? 2 "udt_name" Json.text?
    length := ← record.optional? 3 "char_length" Json.int32?
    precision := ← record.optional? 4 "numeric_precision" Json.int32?
    scale := ← record.optional? 5 "numeric_scale" Json.int32?
    isNullable := ← record.required? 6 "is_nullable" Json.truth?
    default := ← record.optional? 7 "default_expr" Json.text?
    isAutoIncrement := ← record.required? 8 "is_auto_increment" Json.truth? }

/-- Reads an index. -/
def Index.ofJson? (value : Json) : Option Index := do
  let record ← Json.Record.of? 3 value
  return {
    name := ← record.required? 0 "name" Json.text?
    isUnique := ← record.required? 1 "is_unique" Json.truth?
    columns := ← record.required? 2 "columns" (Json.listOf? Json.text?) }

/-- Reads a foreign key. -/
def ForeignKey.ofJson? (value : Json) : Option ForeignKey := do
  let record ← Json.Record.of? 5 value
  return {
    name := ← record.required? 0 "name" Json.text?
    columns := ← record.required? 1 "columns" (Json.listOf? Json.text?)
    referencedTable := ← record.required? 2 "ref_table" Json.text?
    referencedColumns := ← record.required? 3 "ref_columns" (Json.listOf? Json.text?)
    onDelete := ← record.required? 4 "on_delete" Json.text? }

/-- Reads a table. -/
def Table.ofJson? (value : Json) : Option Table := do
  let record ← Json.Record.of? 7 value
  return {
    schema := ← record.required? 0 "schema" Json.text?
    name := ← record.required? 1 "name" Json.text?
    columns := ← record.required? 2 "columns" (Json.listOf? Column.ofJson?)
    primaryKey := ← record.required? 3 "primary_key" (Json.listOf? Json.text?)
    indexes := ← record.required? 4 "indexes" (Json.listOf? Index.ofJson?)
    foreignKeys := ← record.required? 5 "foreign_keys" (Json.listOf? ForeignKey.ofJson?)
    sequence := ← record.optional? 6 "sequence" Json.text? }

/-- Writes a column. -/
def Column.toJson (column : Column) : Json :=
  .object [("name", .string column.name), ("data_type", .string column.dataType),
    ("udt_name", .string column.underlyingType), ("char_length", .ofOption .int column.length),
    ("numeric_precision", .ofOption .int column.precision),
    ("numeric_scale", .ofOption .int column.scale), ("is_nullable", .bool column.isNullable),
    ("default_expr", .ofOption .string column.default),
    ("is_auto_increment", .bool column.isAutoIncrement)]

/-- Writes an index. -/
def Index.toJson (index : Index) : Json :=
  .object [("name", .string index.name), ("is_unique", .bool index.isUnique),
    ("columns", .strings index.columns)]

/-- Writes a foreign key. -/
def ForeignKey.toJson (key : ForeignKey) : Json :=
  .object [("name", .string key.name), ("columns", .strings key.columns),
    ("ref_table", .string key.referencedTable), ("ref_columns", .strings key.referencedColumns),
    ("on_delete", .string key.onDelete)]

/-- Writes a table. -/
def Table.toJson (table : Table) : Json :=
  .object [("schema", .string table.schema), ("name", .string table.name),
    ("columns", .array (table.columns.map Column.toJson)),
    ("primary_key", .strings table.primaryKey),
    ("indexes", .array (table.indexes.map Index.toJson)),
    ("foreign_keys", .array (table.foreignKeys.map ForeignKey.toJson)),
    ("sequence", .ofOption .string table.sequence)]

end SchemaFerry.Schema
