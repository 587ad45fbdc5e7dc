/-
**Roles of the script.**

Two roles are created, one that may edit and one that may view. Unless they are named, their names
share a base derived from the schema's name: `NEXTHEACX_WIZAS` gives `HEACX`, a last part that
names an environment is dropped, and no schema at all gives `APP`.
-/

import SchemaFerry.Identifier.Basic
import SchemaFerry.Text.Split

namespace SchemaFerry.Script

open SchemaFerry.Text SchemaFerry.Identifier

/-- Longest base, so that the role names keep their ends within the length limit. -/
def maxRoleBaseLength : Nat := 20

/-- Last parts of schema names that name an environment. -/
def environments : List String :=
  ["ENV", "DEV", "TEST", "QA", "UAT", "STG", "PROD"]

/-- The application's part of a schema name `NEXT<application>_<module>`. -/
def nextApplication? (letters : List Char) : Option (List Char) := do
  let rest ← "NEXT".toList.isPrefixOf? letters
  let (application, _) ← cutAtFirst? '_' rest
  if application.isEmpty then none else some application

/-- A schema name without a last part that names an environment. -/
def withoutEnvironment (letters : List Char) : List Char :=
  match cutAtLast? '_' letters with
  | some (front, last) =>
    if !front.isEmpty && environments.contains (String.ofList last) then front else letters
  | none => letters

/-- The base of the role names for a schema. -/
def roleBase (schema : Option String) : String :=
  let letters := upper (trim (schema.getD "").toList)
  if letters.isEmpty then "APP"
  else
    truncate maxRoleBaseLength
      (String.ofList ((nextApplication? letters).getD (withoutEnvironment letters)))

/-- The two roles. -/
structure Roles where
  edit : String
  view : String
  deriving Repr, DecidableEq

/-- A role that is named, or the derived one. -/
def roleName (named : Option String) (derived : String) : String :=
  match named.map trimmed with
  | some name => if name.isEmpty then derived else normalize name
  | none => derived

/-- The roles of a schema, with the names that are given. -/
def Roles.resolve (schema edit view : Option String) : Roles :=
  let base := roleBase schema
  ⟨roleName edit (base ++ "_EDIT_ROLE"), roleName view (base ++ "_VIEW_ROLE")⟩

/-- The users of a role; without any, one placeholder. -/
def roleUsers (users : List String) : List String :=
  let named := (users.filter fun user => !isAllBlank user).map normalize
  if named.isEmpty then ["APP_USER"] else named

end SchemaFerry.Script
