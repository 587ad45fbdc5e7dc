/-
**The names in a script.**

What a statement creates, and what it needs to have been created before it. `isClosed` walks the
statements in the order of the document and asks that no statement needs what comes later or never.

* `closedAfter_append`: a walk over two runs of statements is a walk over the first and then the
  second;
* `after_created`: what a walk knows at the end is what it knew before and what the statements
  create.
-/

import SchemaFerry.Script.Statement

namespace SchemaFerry.Script

/-- An object of the destination, by its written name. Tables and sequences share their names with
indexes and constraints; the names of roles are their own. -/
inductive Created where
  | table (name : String)
  | sequence (name : String)
  | role (name : String)
  deriving Repr, DecidableEq

namespace Statement

/-- What a statement creates that others may need. -/
def created : Statement → List Created
  | createTable _ name _ _ => [.table name]
  | createSequence _ name => [.sequence name]
  | createRole name => [.role name]
  | _ => []

/-- Whether a statement can follow on what is known to be there. The privileges of an object may be
those of a table or of a sequence. -/
def isReady (known : List Created) : Statement → Bool
  | createIndex _ table .. => known.contains (.table table)
  | addForeignKey _ table .. => known.contains (.table table)
  | grantObject _ _ object grantee =>
    (known.contains (.table object) || known.contains (.sequence object)) &&
      known.contains (.role grantee)
  | grantRole role _ => known.contains (.role role)
  | _ => true

/-- The names that a statement takes in the schema: no two statements may take the same. -/
def taken : Statement → List String
  | createSequence _ name => [name]
  | createTable _ name _ primaryKey => name :: primaryKey.toList.map PrimaryKey.name
  | createIndex _ _ name _ _ => [name]
  | addForeignKey _ _ name _ _ _ _ => [name]
  | _ => []

/-- All names that stand in a statement. -/
def names : Statement → List String
  | comment _ => []
  | createSequence schema name => [schema, name]
  | createTable schema name columns primaryKey =>
    [schema, name] ++ columns.map ColumnDefinition.name ++
      primaryKey.toList.flatMap fun key => key.name :: key.columns
  | createIndex schema table name _ columns => [schema, table, name] ++ columns
  | addForeignKey schema table name columns referencedTable referencedColumns _ =>
    [schema, table, name] ++ columns ++ referencedTable :: referencedColumns
  | createRole name => [name]
  | grantObject _ schema object grantee => [schema, object, grantee]
  | grantRole role users => role :: users

end Statement

/-- What is known to be there after statements. -/
def knownAfter (known : List Created) (statements : List Statement) : List Created :=
  statements.foldl (fun before statement => before ++ statement.created) known

/-- Whether every statement can follow on what is known before it. -/
def closedAfter (known : List Created) : List Statement → Bool
  | [] => true
  | statement :: rest =>
    statement.isReady known && closedAfter (known ++ statement.created) rest

/-- Whether every statement of a script can follow on the ones before it. -/
def isClosed (sections : List Section) : Bool :=
  closedAfter [] (statements sections)

/-- The names that the statements of a script take in the schema. -/
def takenNames (sections : List Section) : List String :=
  (statements sections).flatMap Statement.taken

/-! ### Lemmas -/

/-- What a walk knows at the end is what it knew before and what the statements create. -/
theorem after_created (known : List Created) (statements : List Statement) :
    knownAfter known statements = known ++ statements.flatMap Statement.created := by
  induction statements generalizing known with
  | nil => simp [knownAfter]
  | cons statement rest hypothesis =>
    have tail := hypothesis (known ++ statement.created)
    simp only [knownAfter, List.foldl_cons, List.flatMap_cons, ← List.append_assoc] at tail ⊢
    exact tail

/-- A walk over two runs of statements is a walk over the first and then the second. -/
theorem closedAfter_append (known : List Created) (first second : List Statement) :
    closedAfter known (first ++ second) =
      (closedAfter known first && closedAfter (knownAfter known first) second) := by
  induction first generalizing known with
  | nil => simp [closedAfter, knownAfter]
  | cons statement rest hypothesis =>
    simp only [List.cons_append, closedAfter, hypothesis, knownAfter, List.foldl_cons,
      Bool.and_assoc]

end SchemaFerry.Script
