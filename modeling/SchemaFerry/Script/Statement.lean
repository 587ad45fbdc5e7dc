/-
**Statements of the script.**

A script is a list of titled sections of statements. The names in a statement are written names of
the destination: they need no further quoting.
-/

namespace SchemaFerry.Script

/-- A column of a table that is created. -/
structure ColumnDefinition where
  name : String
  type : String
  default : Option String
  isNullable : Bool
  deriving Repr, DecidableEq

/-- A named primary key. -/
structure PrimaryKey where
  name : String
  columns : List String
  deriving Repr, DecidableEq

/-- One statement. -/
inductive Statement where
  | comment (text : String)
  | createSequence (schema name : String)
  | createTable (schema name : String) (columns : List ColumnDefinition)
      (primaryKey : Option PrimaryKey)
  | createIndex (schema table name : String) (isUnique : Bool) (columns : List String)
  | addForeignKey (schema table name : String) (columns : List String) (referencedTable : String)
      (referencedColumns : List String) (onDelete : Option String)
  | createRole (name : String)
  | grantObject (privileges : List String) (schema object grantee : String)
  | grantRole (role : String) (users : List String)
  deriving Repr, DecidableEq

/-- A titled group of statements. -/
structure Section where
  title : String
  statements : List Statement
  deriving Repr, DecidableEq

/-- All statements in the order of the document. -/
def statements (sections : List Section) : List Statement :=
  sections.flatMap Section.statements

/-- Whether a statement creates a table. -/
def Statement.createsTable : Statement → Bool
  | createTable .. => true
  | _ => false

/-- The count of the tables that a script creates. -/
def tableCount (sections : List Section) : Nat :=
  ((statements sections).filter Statement.createsTable).length

/-- The type of a column with its default. -/
def ColumnDefinition.clause (column : ColumnDefinition) : String :=
  match column.default with
  | some expression => column.type ++ " DEFAULT " ++ expression
  | none => column.type

end SchemaFerry.Script
