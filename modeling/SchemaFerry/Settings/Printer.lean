/-
**Writing settings.**

Settings as JSON values: what is absent is left out. A connection is also shown on one line for
people, who do not get to see its password.
-/

import SchemaFerry.Json.Basic
import SchemaFerry.Settings.Basic
import SchemaFerry.Text.Escaped

namespace SchemaFerry

/-- A member, unless its value is absent. -/
def presentMember {α : Type} (name : String) (encode : α → Json) : Option α → List (String × Json)
  | some value => [(name, encode value)]
  | none => []

/-- A connection as a JSON value. -/
def Connection.toJson (connection : Connection) : Json :=
  .object ([("uri", .string connection.address), ("username", .string connection.user),
    ("password", .string connection.password), ("schema", .string connection.schema)] ++
    presentMember "driver" .string connection.driver ++
    [("ssl_mode", .string connection.tlsMode)])

/-- How tables are copied, as a JSON value. -/
def CopySettings.toJson (settings : CopySettings) : Json :=
  .object [("workers", .int settings.workers), ("batch_size", .int settings.batchSize),
    ("query_timeout_secs", .int settings.timeoutSeconds),
    ("progress_interval_secs", .int settings.progressSeconds), ("lock_key", .int settings.lockKey),
    ("exclude_tables", Json.strings settings.excludedTables),
    ("custom_selects", .object (settings.customSelects.map fun (table, select) =>
      (table, .string select)))]

/-- What goes into a script, as a JSON value. -/
def ScriptSettings.toJson (settings : ScriptSettings) : Json :=
  .object (presentMember "target_schema" .string settings.targetSchema ++
    presentMember "edit_role" .string settings.editRole ++
    presentMember "view_role" .string settings.viewRole ++
    [("edit_role_users", Json.strings settings.editUsers),
      ("view_role_users", Json.strings settings.viewUsers)])

/-- All settings as a JSON value. -/
def Settings.toJson (settings : Settings) : Json :=
  .object ([("source", settings.source.toJson)] ++
    presentMember "target" Connection.toJson settings.target ++
    [("migration", settings.copying.toJson), ("scripts", settings.scripts.toJson)])

/-- What stands for every password. -/
def hiddenPassword : String := "***"

/-- The connection on one line, without its password. -/
def Connection.shown (connection : Connection) : String :=
  let driver :=
    match connection.driver with
    | some name => "Some(" ++ Text.escaped name ++ ")"
    | none => "None"
  "ConnectionConfig \x7b uri: " ++ Text.escaped connection.address ++ ", username: " ++
    Text.escaped connection.user ++ ", password: " ++ Text.escaped hiddenPassword ++ ", schema: " ++
    Text.escaped connection.schema ++ ", driver: " ++ driver ++ ", ssl_mode: " ++
    Text.escaped connection.tlsMode ++ " \x7d"

end SchemaFerry
