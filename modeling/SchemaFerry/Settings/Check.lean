/-
**Checking settings.**

Settings are checked field by field, the source first; the first field that is refused is the fault.
-/

import SchemaFerry.Settings.Family
import SchemaFerry.Settings.Reader
import SchemaFerry.Settings.Tls

namespace SchemaFerry

open SchemaFerry.Text

/-- Refuses a setting unless it is right. -/
def require (right : Bool) (problem : SettingsProblem) : Except Fault Unit :=
  if right then .ok () else .error (.settings problem)

/-- Refuses a field that is blank. -/
def requireText (side : Side) (field text : String) : Except Fault Unit :=
  require (!isAllBlank text) (.blank side field)

/-- Checks a connection of a family. -/
def Connection.check (side : Side) (family : Family) (connection : Connection) :
    Except Fault Unit := do
  requireText side "uri" connection.address
  requireText side "username" connection.user
  requireText side "schema" connection.schema
  require ((← connection.family) == family) (.wrongFamily side)

/-- Checks how tables are copied. -/
def CopySettings.check (settings : CopySettings) : Except Fault Unit := do
  require (settings.workers != 0) (.zeroSetting "workers")
  require (settings.batchSize != 0) (.zeroSetting "batch_size")
  require (settings.timeoutSeconds != 0) (.zeroSetting "query_timeout_secs")
  require (settings.progressSeconds != 0) (.zeroSetting "progress_interval_secs")

/-- Checks all settings. -/
def Settings.check (settings : Settings) : Except Fault Unit := do
  settings.source.check .source .postgres
  let _ ← TlsMode.ofName settings.source.tlsMode
  match settings.target with
  | some target => target.check .target .oracle
  | none => pure ()
  settings.copying.check

/-- The destination, which must be set for a copy. -/
def Settings.requireTarget (settings : Settings) : Except Fault Connection :=
  match settings.target with
  | some target => .ok target
  | none => .error (.settings .noTarget)

/-- The settings of a value in a written form, checked; `unreadable` is the fault of a value that
does not hold settings. -/
def Settings.checked {ν : Type} (form : Form ν) (unreadable : Fault) (value : ν) :
    Except Fault Settings := do
  match Settings.read? form value with
  | some settings =>
    settings.check
    return settings
  | none => throw unreadable

/-- The settings of a JSON value. -/
def Settings.ofJson (value : Json) : Except Fault Settings :=
  Settings.checked .json .json value

/-- The settings of a YAML text. -/
def Settings.ofYaml (text : String) : Except Fault Settings :=
  match Yaml.Value.ofText? text with
  | some value => Settings.checked .yaml .yaml value
  | none => .error .yaml

end SchemaFerry
