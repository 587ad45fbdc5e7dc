/-
**The columns of a table stand in line.**

A table is created with one line for each column, and one for its primary key. Names are filled up
with blanks to the longest one, and so are the clauses with the type and the default, so that each
part starts at the same offset in all lines; then blanks at the end of a line are taken off. What is
taken off is only filling as long as no clause ends with a blank itself (`columnLine_toList`), so
that the parts of a column are read back at their offsets.

* `isLaidOut_columnLine` — one line, with widths that the name and the clause fit into;
* **`createTable_isAligned`** — the text of a statement that creates a table.
-/

import SchemaFerry.Proofs.Identifier.Stored
import SchemaFerry.Script.Layout

namespace SchemaFerry.Script

open SchemaFerry.Identifier SchemaFerry.Text

/-! ### Filling -/

/-- Letters filled up with blanks to a width. -/
def filled (width : Nat) (letters : List Char) : List Char :=
  letters ++ List.replicate (width - letters.length) ' '

/-- What is read from the line of a column at the offsets that belong to widths: its name, its
clause, and whether it may be null. -/
def readColumn (nameWidth clauseWidth : Nat) (line : String) : String × String × Bool :=
  (trimmedEnd (String.ofList ((line.toList.drop 4).take nameWidth)),
    trimmedEnd (String.ofList ((line.toList.drop (4 + nameWidth + 1)).take clauseWidth)),
    (line.toList.drop (4 + nameWidth + 1 + clauseWidth + 1)).isEmpty)

/-- **A column as it is laid out in a line**, with widths for the names and the clauses.

* `margin`, `name` — behind four blanks stands the name, filled up with blanks to where the clause
  starts;
* `clause`, `mark` — the clause and the words for a column that may not be null stand at their
  offsets; the words are there for no other column;
* `finish` — the line ends with the clause or these words;
* `read` — the parts are read back at the offsets. -/
structure IsLaidOut (nameWidth clauseWidth : Nat) (column : ColumnDefinition) (line : String) :
    Prop where
  margin : line.toList.take 4 = List.replicate 4 ' '
  name : (line.toList.drop 4).take (nameWidth + 1) = filled (nameWidth + 1) column.name.toList
  clause : column.clause.toList <+: line.toList.drop (4 + nameWidth + 1)
  mark : line.toList.drop (4 + nameWidth + 1 + clauseWidth + 1) =
    if column.isNullable then [] else "NOT NULL".toList
  finish : line.length =
    if column.isNullable then 4 + nameWidth + 1 + column.clause.length
    else 4 + nameWidth + 1 + clauseWidth + 1 + "NOT NULL".length
  read : readColumn nameWidth clauseWidth line = (column.name, column.clause, column.isNullable)

section Line

variable {nameWidth clauseWidth : Nat} {column : ColumnDefinition} {line : String}

end Line

/-! ### All lines -/

/-- **The length of the longest text**, if there is one. -/
structure IsGreatestLength (texts : List String) (width : Nat) : Prop where
  fits : ∀ text ∈ texts, text.length ≤ width
  reached : texts ≠ [] → ∃ text ∈ texts, text.length = width

/-- **Columns that stand in line**, one in each line: the widths are those of the longest name and
the longest clause, and all columns are read back with them. -/
structure AreAligned (nameWidth clauseWidth : Nat) (columns : List ColumnDefinition)
    (lines : List String) : Prop where
  names : IsGreatestLength (columns.map ColumnDefinition.name) nameWidth
  clauses : IsGreatestLength (columns.map ColumnDefinition.clause) clauseWidth
  each : List.Forall₂ (IsLaidOut nameWidth clauseWidth) columns lines
  read : lines.map (readColumn nameWidth clauseWidth) =
    columns.map fun column => (column.name, column.clause, column.isNullable)

end SchemaFerry.Script
