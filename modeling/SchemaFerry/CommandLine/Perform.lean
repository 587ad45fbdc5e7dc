/-
**What the program does.**

The arguments and the settings say what to do: generate a script, or copy. Options of the subcommand
go over the settings; settings that a copy is started with have been checked with them, but for the
name of the destination's schema. A deed is what is left to do at the end: a file to write, a text to
show, and the fault to end with.
-/

import SchemaFerry.CommandLine.Arguments
import SchemaFerry.File.Failure
import SchemaFerry.Number.Binary64
import SchemaFerry.Run.Migration
import SchemaFerry.Script.Generate
import SchemaFerry.Settings.Check
import SchemaFerry.Text.Escaped

namespace SchemaFerry.CommandLine

variable {σ δ : Type}

/-- The settings in a file. -/
def settingsOf (file : Except Fault (List UInt8)) : Except Fault Settings := do
  match Text.ofUtf8? (← file) with
  | some text => Settings.ofYaml text
  | none => throw File.notText

/-- What is left to do. -/
structure Deed where
  file : Option (String × String)
  output : String
  fault : Option Fault
  deriving Repr

/-- Lines, each with its end. -/
def lines (texts : List String) : String :=
  String.join (texts.map (· ++ "\n"))

/-! ### Scripts -/

/-- The users of a role: those given, or else those of the settings. -/
def usersOr (given configured : List String) : List String :=
  if given.isEmpty then configured else given

/-- A name given, or else that of the settings. -/
def nameOr (given configured : Option String) : Option String :=
  match given with
  | some name => some name
  | none => configured

/-- What script is wanted. -/
def scriptRequest (settings : Settings) (given : Given) : Script.Request where
  sourceSchema := settings.source.schema
  targetSchema := nameOr (given.value? "target-schema") settings.scripts.targetSchema
  editRole := nameOr (given.value? "edit-role") settings.scripts.editRole
  viewRole := nameOr (given.value? "view-role") settings.scripts.viewRole
  editUsers := usersOr (given.all "edit-user") settings.scripts.editUsers
  viewUsers := usersOr (given.all "view-user") settings.scripts.viewUsers

/-- The script of a connection. -/
def generateFrom (server : Source.Server σ) (connection : Connection) (request : Script.Request) :
    Session σ Script.Document := do
  server.openPool connection scriptPoolSize
  Script.generate server.catalog request

/-- What is shown of a script that went into a file. -/
def scriptSummary (document : Script.Document) : String :=
  lines ["Script generated!", "  Tables: " ++ toString document.tableCount,
    "  Warnings: " ++ toString document.warnings.length]

/-- What is left to do with a script. -/
def scriptDeed (writesJson : Bool) (path : Option String) (document : Script.Document) : Deed where
  file := path.map fun path => (path, document.text)
  output :=
    if writesJson then document.toJson.pretty ++ "\n"
    else if path.isNone then document.text
    else scriptSummary document
  fault := none

/-! ### Copies -/

/-- How tables are copied, with the options over the settings. -/
def overriddenCopy (settings : CopySettings) (given : Given) : CopySettings :=
  { settings with
    workers := ((given.value? "workers").bind count?).getD settings.workers
    batchSize := ((given.value? "batch-size").bind count?).getD settings.batchSize }

/-- The settings with the options over them; the schema of the destination stays. -/
def overridden (settings : Settings) (given : Given) : Settings :=
  { settings with
    source := { settings.source with
      schema := (given.value? "source-schema").getD settings.source.schema }
    copying := overriddenCopy settings.copying given }

/-- What a copy is started with: the source, the destination and how tables are copied. -/
structure CopyRequest where
  source : Connection
  target : Connection
  settings : CopySettings
  deriving Repr, DecidableEq

/-- What copy is wanted. -/
def copyRequest (settings : Settings) (given : Given) : Except Fault CopyRequest := do
  let effective := overridden settings given
  let target ← effective.requireTarget
  effective.check
  return ⟨effective.source,
    { target with schema := (given.value? "target-schema").getD target.schema }, effective.copying⟩

/-- The failures of the steps around a copy. -/
def stepFailures (report : Report.CopyReport) : Nat :=
  (report.steps.filter (·.isFailure)).length

/-- Texts between brackets, as they stand in a message. -/
def bracketedTexts (texts : List String) : String :=
  "[" ++ ", ".intercalate (texts.map Text.escaped) ++ "]"

/-- What is shown of a finished copy. -/
def reportSummary (report : Report.CopyReport) : String :=
  lines (["", "Migration completed!", "  Run ID: " ++ report.runId,
    "  Duration: " ++ Number.fixedPlaces 2 report.seconds ++ "s",
    "  Tables: " ++ toString report.tally.succeeded ++ "/" ++ toString report.tables.length,
    "  Rows: " ++ toString report.rows,
    "  Throughput: " ++ toString report.rowsPerSecond ++ " rows/sec"] ++
    (if report.failedTables.isEmpty then []
      else ["  Failed tables: " ++ bracketedTexts report.failedTables]) ++
    (if stepFailures report = 0 then []
      else ["  Constraint/sequence failures: " ++ toString (stepFailures report) ++ " (see log)"]))

/-- The fault with which a copy with failed tables ends. -/
def tablesFault? (report : Report.CopyReport) : Option Fault :=
  let failed := report.failedTables
  if failed.isEmpty then none
  else some (.transfer (", ".intercalate failed)
    (toString failed.length ++ " of " ++ toString report.tables.length ++ " tables failed"))

/-- What is left to do after a copy. -/
def copyDeed (writesJson : Bool) (outcome : Report.RunOutcome) : Deed where
  file := none
  output :=
    if writesJson then outcome.toJson.pretty ++ "\n"
    else
      match outcome with
      | .skipped reason => lines ["Migration skipped: " ++ reason]
      | .completed report => reportSummary report
  fault :=
    match outcome with
    | .skipped _ => none
    | .completed report => tablesFault? report

/-! ### The program -/

/-- Does what the arguments ask for. -/
def perform (servers : Run.Servers σ δ) (timing : Run.Timing) (arguments : Arguments)
    (settings : Settings) : Session (Run.World σ δ) Deed :=
  match arguments.subcommand with
  | .generateScripts given => do
    let request := scriptRequest settings given
    let document ← Run.World.onSource (generateFrom servers.source settings.source request)
    return scriptDeed arguments.writesJson (given.value? "output") document
  | .migrate given => do
    let request ← Session.ofExcept (copyRequest settings given)
    let job : Run.Job := ⟨request.source, request.target, request.settings, timing⟩
    let outcome ← ExceptT.lift (Run.runOnce servers job)
    return copyDeed arguments.writesJson (← Session.ofExcept outcome)

/-- Does what the arguments ask for with the settings in a file; a fault is what is left to report.
-/
def deed (servers : Run.Servers σ δ) (timing : Run.Timing) (arguments : Arguments)
    (file : Except Fault (List UInt8)) (world : Run.World σ δ) : Deed × Run.World σ δ :=
  match settingsOf file with
  | .error fault => (⟨none, "", some fault⟩, world)
  | .ok settings =>
    match (perform servers timing arguments settings).result world with
    | (.ok deed, after) => (deed, after)
    | (.error fault, after) => (⟨none, "", some fault⟩, after)

/-- The exit code for arguments that do not ask for work. -/
def Refusal.exitCode : Refusal → Nat
  | .help | .version => 0
  | .usage => 2

/-- The name and the version of the program. -/
def versionText : String :=
  "pg-oracle-migrate 0.1.0"

/-- The text for arguments that ask for help or were refused. -/
def helpText : String :=
  lines ["PostgreSQL to Oracle schema translation and data migration", "",
    "Usage: pg-oracle-migrate [OPTIONS] <COMMAND>", "",
    "Commands:", "  generate-scripts  Generate Oracle DDL and DCL from the source schema",
    "  migrate           Copy all source tables into the Oracle destination",
    "  help              Print this message or the help of the given subcommand(s)"]

/-- The exit code of a fault or of none. -/
def exitCodeOf : Option Fault → Nat
  | some fault => fault.exitCode
  | none => 0

end SchemaFerry.CommandLine
