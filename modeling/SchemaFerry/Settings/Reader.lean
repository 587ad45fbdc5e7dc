/-
**Reading settings.**

Settings are written as JSON or as YAML. A `Form` says how values of either are taken apart; the
fields, their order and what they are where they are missing are the same for both.
-/

import SchemaFerry.Json.Basic
import SchemaFerry.Keyed
import SchemaFerry.Settings.Basic
import SchemaFerry.Yaml.Value

namespace SchemaFerry

/-- How the values of a written form are taken apart. -/
structure Form (ν : Type) where
  fields? : List String → ν → Option (List (Option ν))
  text? : ν → Option String
  nat64? : ν → Option Nat
  int64? : ν → Option Int
  items? : ν → Option (List ν)
  pairs? : ν → Option (List (String × ν))
  nullable? : ν → Option (Option ν)

/-- The form of JSON values. -/
def Form.json : Form Json where
  fields? keys value := do
    let record ← Json.Record.of? keys.length value
    return keys.zipIdx.map fun (key, position) => record.field? position key
  text? := Json.text?
  nat64? := Json.nat64?
  int64? := Json.int64?
  items? := Json.listOf? some
  pairs? := Json.mapOf? some
  nullable? := Json.nullable? some

/-- The form of YAML values. -/
def Form.yaml : Form Yaml.Value where
  fields? := Yaml.Value.fields?
  text? := Yaml.Value.text?
  nat64? := Yaml.Value.nat64?
  int64? := Yaml.Value.int64?
  items? := Yaml.Value.items?
  pairs? := Yaml.Value.pairs?
  nullable? := Yaml.Value.nullable?

namespace Form

variable {ν α : Type}

/-- A field that must be there. -/
def required (field : Option ν) (decode : ν → Option α) : Option α :=
  field.bind decode

/-- A field with the value that it has when it is missing. -/
def withDefault (field : Option ν) (decode : ν → Option α) (default : α) : Option α :=
  match field with
  | some value => decode value
  | none => some default

/-- A value that may be absent. -/
def orNone (form : Form ν) (decode : ν → Option α) (value : ν) : Option (Option α) :=
  match form.nullable? value with
  | none => none
  | some none => some none
  | some (some inner) => (decode inner).map some

/-- A list of texts. -/
def texts? (form : Form ν) (value : ν) : Option (List String) :=
  (form.items? value).bind fun items => items.mapM form.text?

/-- Texts by name, in the order of the names; the last text of a name counts. -/
def namedTexts? (form : Form ν) (value : ν) : Option (List (String × String)) := do
  let pairs ← form.pairs? value
  let texts ← pairs.mapM fun pair => (form.text? pair.2).map fun text => (pair.1, text)
  return Keyed.ofList texts

end Form

/-- Reads a connection. -/
def Connection.read? {ν : Type} (form : Form ν) (value : ν) : Option Connection := do
  match ← form.fields? ["uri", "username", "password", "schema", "driver", "ssl_mode"] value with
  | [address, user, password, schema, driver, tlsMode] =>
    return {
      address := ← Form.required address form.text?
      user := ← Form.required user form.text?
      password := ← Form.withDefault password form.text? ""
      schema := ← Form.required schema form.text?
      driver := ← Form.withDefault driver (form.orNone form.text?) none
      tlsMode := ← Form.withDefault tlsMode form.text? standardTlsMode }
  | _ => none

/-- Reads how tables are copied. -/
def CopySettings.read? {ν : Type} (form : Form ν) (value : ν) : Option CopySettings := do
  match ← form.fields? ["workers", "batch_size", "query_timeout_secs", "progress_interval_secs",
    "lock_key", "exclude_tables", "custom_selects"] value with
  | [workers, batchSize, timeout, progress, lockKey, excluded, selects] =>
    return {
      workers := ← Form.withDefault workers form.nat64? standard.workers
      batchSize := ← Form.withDefault batchSize form.nat64? standard.batchSize
      timeoutSeconds := ← Form.withDefault timeout form.nat64? standard.timeoutSeconds
      progressSeconds := ← Form.withDefault progress form.nat64? standard.progressSeconds
      lockKey := ← Form.withDefault lockKey form.int64? standard.lockKey
      excludedTables := ← Form.withDefault excluded form.texts? standard.excludedTables
      customSelects := ← Form.withDefault selects form.namedTexts? standard.customSelects }
  | _ => none

/-- Reads what goes into a script. -/
def ScriptSettings.read? {ν : Type} (form : Form ν) (value : ν) : Option ScriptSettings := do
  match ← form.fields? ["target_schema", "edit_role", "view_role", "edit_role_users",
    "view_role_users"] value with
  | [targetSchema, editRole, viewRole, editUsers, viewUsers] =>
    return {
      targetSchema := ← Form.withDefault targetSchema (form.orNone form.text?) none
      editRole := ← Form.withDefault editRole (form.orNone form.text?) none
      viewRole := ← Form.withDefault viewRole (form.orNone form.text?) none
      editUsers := ← Form.withDefault editUsers form.texts? []
      viewUsers := ← Form.withDefault viewUsers form.texts? [] }
  | _ => none

/-- Reads all settings. -/
def Settings.read? {ν : Type} (form : Form ν) (value : ν) : Option Settings := do
  match ← form.fields? ["source", "target", "migration", "scripts"] value with
  | [source, target, copying, scripts] =>
    return {
      source := ← Form.required source (Connection.read? form)
      target := ← Form.withDefault target (form.orNone (Connection.read? form)) none
      copying := ← Form.withDefault copying (CopySettings.read? form) .standard
      scripts := ← Form.withDefault scripts (ScriptSettings.read? form) .standard }
  | _ => none

end SchemaFerry
