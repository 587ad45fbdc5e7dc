/-
**From tables to the script.**

Names are handed out by one allocator in a fixed order: all tables, then their sequences, then for
each table its primary key and its indexes, last the foreign keys. A foreign key refers to the
referenced table by the name that table was given. An index over the columns of the primary key or
of an earlier index is left out.
-/

import SchemaFerry.Identifier.Allocator
import SchemaFerry.Schema.DefaultValue
import SchemaFerry.Schema.Warning
import SchemaFerry.Script.Roles
import SchemaFerry.Script.Statement

namespace SchemaFerry.Script

open SchemaFerry.Identifier SchemaFerry.Schema SchemaFerry.Text

/-- What the script needs beside the tables. -/
structure Options where
  schema : String
  roles : Roles
  editUsers : List String
  viewUsers : List String
  deriving Repr

/-- The stored names of a table and of its sequence. -/
structure ObjectNames where
  table : String
  sequence : Option String
  deriving Repr, DecidableEq

/-! ### Names -/

/-- The stored names of the tables with the given source names, in their order. -/
def tableNames (names : List String) : List String × Allocator :=
  Allocator.empty.allocateAll (names.map normalize)

/-- The stored names of the sequences that the tables need. -/
def sequenceNames (allocator : Allocator) :
    List (Option String) → List (Option String) × Allocator
  | [] => ([], allocator)
  | none :: rest =>
    let (names, final) := sequenceNames allocator rest
    (none :: names, final)
  | some wanted :: rest =>
    let (name, after) := allocator.allocate (normalize wanted)
    let (names, final) := sequenceNames after rest
    (some name :: names, final)

/-- The stored names of all tables and sequences. -/
def objectNames (tables : List Table) : List ObjectNames × Allocator :=
  let (names, afterTables) := tableNames (tables.map Table.name)
  let (sequences, final) := sequenceNames afterTables (tables.map Table.sequence)
  (List.zipWith ObjectNames.mk names sequences, final)

/-- The warning for a table that was given another name than it asked for. -/
def tableRenaming? (table : Table) (names : ObjectNames) : Option Warning :=
  let wanted := normalize table.name
  if names.table = wanted then none else some (.tableRenamed table.name wanted names.table)

/-- The warning for a sequence that was given another name than it asked for. -/
def sequenceRenaming? (table : Table) (names : ObjectNames) : Option Warning := do
  let wanted := normalize (← table.sequence)
  let given ← names.sequence
  if given = wanted then none else some (.sequenceRenamed table.name wanted given)

/-- The stored name of the table with a source name; the last table of that name counts. -/
def storedName? (tables : List Table) (objects : List ObjectNames) (name : String) :
    Option String :=
  ((tables.zip objects).reverse.find? fun pair => pair.1.name == name).map fun pair => pair.2.table

/-! ### Tables -/

/-- A column of the created table. -/
def columnDefinition (column : Column) : ColumnDefinition where
  name := written column.name
  type := column.mapping.type.written
  default :=
    match column.default.map DefaultValue.translate with
    | some (.keep expression) => some expression
    | _ => none
  isNullable := column.isNullable

/-- The warnings of a column: first for its type, then for its default. -/
def columnWarnings (table : String) (column : Column) : List Warning :=
  (column.typeWarning? table).toList ++
    match column.default with
    | some expression =>
      if DefaultValue.translate expression = .unsupported then
        [.defaultOmitted table column.name expression]
      else []
    | none => []

/-- Whether two lists of columns are equal up to the case of the letters `A` to `Z`. -/
def sameColumns (first second : List String) : Bool :=
  first.length == second.length && (first.zip second).all fun pair => sameLetters pair.1 pair.2

/-- The statements for the indexes that are not yet covered, and the warnings for the others. -/
def indexStatements (schema stored : String) (table : Table) (allocator : Allocator)
    (covered : List (List String)) : List Index → List Statement × List Warning × Allocator
  | [] => ([], [], allocator)
  | index :: rest =>
    if covered.any (sameColumns · index.columns) then
      let (statements, warnings, final) :=
        indexStatements schema stored table allocator covered rest
      (statements, .indexSkipped table.name index.name index.columns :: warnings, final)
    else
      let (name, after) := allocator.allocate (normalize index.name)
      let (statements, warnings, final) :=
        indexStatements schema stored table after (covered ++ [index.columns]) rest
      (.createIndex schema (written stored) (written name) index.isUnique
        (index.columns.map written) :: statements, warnings, final)

/-- The statements for a table: a comment, the table and its indexes. -/
def tableStatements (schema stored : String) (table : Table) (allocator : Allocator) :
    List Statement × List Warning × Allocator :=
  let (primaryKey, afterKey) :=
    if table.hasPrimaryKey then
      let (name, after) := allocator.allocate ("PK_" ++ normalize table.name)
      (some (PrimaryKey.mk (written name) (table.primaryKey.map written)), after)
    else (none, allocator)
  let covered := if table.hasPrimaryKey then [table.primaryKey] else []
  let (indexes, indexWarnings, final) :=
    indexStatements schema stored table afterKey covered table.indexes
  (.comment ("Table: " ++ written stored) ::
      .createTable schema (written stored) (table.columns.map columnDefinition) primaryKey ::
      indexes,
    table.columns.flatMap (columnWarnings table.name) ++ indexWarnings, final)

/-- The statements for all tables. -/
def tableSection (schema : String) (allocator : Allocator) :
    List (Table × ObjectNames) → List Statement × List Warning × Allocator
  | [] => ([], [], allocator)
  | (table, names) :: rest =>
    let (first, firstWarnings, after) := tableStatements schema names.table table allocator
    let (others, otherWarnings, final) := tableSection schema after rest
    (first ++ others, firstWarnings ++ otherWarnings, final)

/-! ### Foreign keys -/

/-- The delete clause for a delete action; the other actions are the destination's default. -/
def deleteClause? (action : String) : Option String :=
  match uppercased action with
  | "CASCADE" => some "CASCADE"
  | "SET_NULL" => some "SET NULL"
  | _ => none

/-- The statements for the foreign keys of one table. -/
def foreignKeyStatements (schema : String) (stored? : String → Option String)
    (table : Table) (names : ObjectNames) (allocator : Allocator) :
    List ForeignKey → List Statement × Allocator
  | [] => ([], allocator)
  | key :: rest =>
    let (name, after) := allocator.allocate
      ("FK_" ++ normalize table.name ++ "_" ++ normalize key.referencedTable)
    let (others, final) := foreignKeyStatements schema stored? table names after rest
    (.addForeignKey schema (written names.table) (written name) (key.columns.map written)
      (written ((stored? key.referencedTable).getD key.referencedTable))
      (key.referencedColumns.map written) (deleteClause? key.onDelete) :: others, final)

/-- The statements for the foreign keys of all tables. -/
def foreignKeySection (schema : String) (stored? : String → Option String)
    (allocator : Allocator) : List (Table × ObjectNames) → List Statement
  | [] => []
  | (table, names) :: rest =>
    let (first, after) :=
      foreignKeyStatements schema stored? table names allocator table.foreignKeys
    first ++ foreignKeySection schema stored? after rest

/-! ### Grants -/

/-- The privileges of the role that may edit. -/
def editPrivileges : List String :=
  ["SELECT", "INSERT", "UPDATE", "DELETE"]

/-- The roles and what they may do. -/
def grantSection (schema : String) (options : Options) (objects : List ObjectNames) :
    List Statement :=
  let edit := written options.roles.edit
  let view := written options.roles.view
  let sequences := objects.filterMap ObjectNames.sequence
  let tables := objects.map ObjectNames.table
  [.comment ("Roles and grants for schema " ++ schema), .createRole edit, .createRole view] ++
    sequences.map (fun name => .grantObject ["SELECT"] schema (written name) edit) ++
    tables.map (fun name => .grantObject editPrivileges schema (written name) edit) ++
    tables.map (fun name => .grantObject ["SELECT"] schema (written name) view) ++
    [.grantRole edit (options.editUsers.map written),
      .grantRole view (options.viewUsers.map written)]

/-! ### The script -/

/-- The script for the tables, and the warnings: first the renamed tables, then the renamed
sequences, then those of the tables in their order. -/
def build (tables : List Table) (options : Options) : List Section × List Warning :=
  let schema := written options.schema
  let (objects, allocator) := objectNames tables
  let paired := tables.zip objects
  let (created, tableWarnings, afterTables) := tableSection schema allocator paired
  let sequences := objects.filterMap ObjectNames.sequence
  ([⟨"SEQUENCES", sequences.map fun name => .createSequence schema (written name)⟩,
      ⟨"TABLES", created⟩,
      ⟨"FOREIGN KEYS", foreignKeySection schema (storedName? tables objects) afterTables paired⟩,
      ⟨"ROLES AND GRANTS", grantSection schema options objects⟩],
    paired.filterMap (fun pair => tableRenaming? pair.1 pair.2) ++
      paired.filterMap (fun pair => sequenceRenaming? pair.1 pair.2) ++ tableWarnings)

end SchemaFerry.Script
