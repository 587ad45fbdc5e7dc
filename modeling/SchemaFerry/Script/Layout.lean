/-
**The text of a script.**

`Statement.text` writes one statement with its semicolon, `text` the whole document: sections with
a ruled title, separated by an empty line. The columns of a table stand one a line, with names,
types and nullability each starting at one offset.
-/

import SchemaFerry.Script.Statement
import SchemaFerry.Text.Blank

namespace SchemaFerry.Script

/-- A text followed by blanks up to a width. -/
def padTo (width : Nat) (text : String) : String :=
  text ++ String.ofList (List.replicate (width - text.length) ' ')

/-- The greatest length of the texts. -/
def widest (texts : List String) : Nat :=
  (texts.map String.length).foldl max 0

/-- The line of a column, given the widths of the names and of the clauses. -/
def columnLine (nameWidth clauseWidth : Nat) (column : ColumnDefinition) : String :=
  Text.trimmedEnd ("    " ++ padTo nameWidth column.name ++ " " ++
    padTo clauseWidth column.clause ++ " " ++ if column.isNullable then "" else "NOT NULL")

/-- The lines between the brackets of a table. -/
def tableLines (columns : List ColumnDefinition) (primaryKey : Option PrimaryKey) : List String :=
  let nameWidth := widest (columns.map ColumnDefinition.name)
  let clauseWidth := widest (columns.map ColumnDefinition.clause)
  columns.map (columnLine nameWidth clauseWidth) ++
    (primaryKey.toList.map fun key =>
      "    CONSTRAINT " ++ key.name ++ " PRIMARY KEY (" ++ ", ".intercalate key.columns ++ ")")

/-- One statement with its semicolon. -/
def Statement.text : Statement → String
  | comment content => "-- " ++ content
  | createSequence schema name =>
    "CREATE SEQUENCE " ++ schema ++ "." ++ name ++ " START WITH 1 INCREMENT BY 1 NOCACHE;"
  | createTable schema name columns primaryKey =>
    "CREATE TABLE " ++ schema ++ "." ++ name ++ " (\n" ++
      ",\n".intercalate (tableLines columns primaryKey) ++ "\n);"
  | createIndex schema table name isUnique columns =>
    "CREATE " ++ (if isUnique then "UNIQUE " else "") ++ "INDEX " ++ schema ++ "." ++ name ++
      " ON " ++ schema ++ "." ++ table ++ " (" ++ ", ".intercalate columns ++ ");"
  | addForeignKey schema table name columns referencedTable referencedColumns onDelete =>
    "ALTER TABLE " ++ schema ++ "." ++ table ++ " ADD CONSTRAINT " ++ name ++ " FOREIGN KEY (" ++
      ", ".intercalate columns ++ ") REFERENCES " ++ schema ++ "." ++ referencedTable ++ " (" ++
      ", ".intercalate referencedColumns ++ ")" ++
      (match onDelete with
        | some action => " ON DELETE " ++ action
        | none => "") ++ ";"
  | createRole name => "CREATE ROLE " ++ name ++ ";"
  | grantObject privileges schema object grantee =>
    "GRANT " ++ ", ".intercalate privileges ++ " ON " ++ schema ++ "." ++ object ++ " TO " ++
      grantee ++ ";"
  | grantRole role users => "GRANT " ++ role ++ " TO " ++ ", ".intercalate users ++ ";"

/-- The rule above a section's title. -/
def rule : String :=
  "-- " ++ String.ofList (List.replicate 60 '=')

/-- One section. -/
def Section.text (part : Section) : String :=
  rule ++ "\n-- " ++ part.title ++ "\n\n" ++
    String.join (part.statements.map fun statement => statement.text ++ "\n")

/-- The whole document. -/
def text (sections : List Section) : String :=
  "\n".intercalate (sections.map Section.text)

end SchemaFerry.Script
