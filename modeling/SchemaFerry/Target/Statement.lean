/-
**Statements for the destination.**

The text of each statement that the program sends to the destination, the writing of rows apart.
Values are bound by position.
-/

import SchemaFerry.Identifier.Basic
import SchemaFerry.Sequences.Basic

namespace SchemaFerry.Target

/-- Numbers that are sent as texts have a decimal point. -/
def sessionSetup : String :=
  "ALTER SESSION SET NLS_NUMERIC_CHARACTERS = '.,'"

/-- Lists the foreign keys of a schema with their statuses. -/
def constraintListing : String :=
  "SELECT table_name, constraint_name, status FROM all_constraints " ++
    "WHERE owner = :1 AND constraint_type = 'R' ORDER BY table_name, constraint_name"

/-- Lists the sequences of a schema. -/
def sequenceListing : String :=
  "SELECT sequence_name FROM all_sequences WHERE sequence_owner = :1 ORDER BY sequence_name"

/-- Lists the tables of a schema whose names a pattern stands for. -/
def tableSearch : String :=
  "SELECT table_name FROM all_tables WHERE owner = :1 AND table_name LIKE :2 ESCAPE '\\' " ++
    "ORDER BY table_name"

/-- Counts the columns of a table that have a name. -/
def columnCount : String :=
  "SELECT COUNT(*) FROM all_tab_columns " ++
    "WHERE owner = :1 AND table_name = :2 AND column_name = :3"

/-- Asks for the greatest identifier of a table. -/
def greatestQuery (place : String) : String :=
  "SELECT MAX(" ++ Sequences.identifierColumn ++ ") FROM " ++ place

/-- Draws from a sequence. -/
def drawQuery (place : String) : String :=
  "SELECT " ++ place ++ ".NEXTVAL FROM DUAL"

/-- Sets the step of a sequence. -/
def stepStatement (place : String) (step : Int) : String :=
  "ALTER SEQUENCE " ++ place ++ " INCREMENT BY " ++ toString step

end SchemaFerry.Target
