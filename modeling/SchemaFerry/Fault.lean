/-
**What can go wrong.**

A fault is a cause: a setting that is refused, a database that refuses a call, a text that cannot be
read. `message` is its one line of text, `exitCode` the code with which the command line ends, and
`detailed` the message followed by the causes behind it, the outermost first.
-/

namespace SchemaFerry

/-- Which of the two connections of the settings. -/
inductive Side where
  | source
  | target
  deriving Repr, DecidableEq

/-- The name of a side in the settings. -/
def Side.label : Side → String
  | source => "source"
  | target => "target"

/-- A setting that is refused. -/
inductive SettingsProblem where
  | blank (side : Side) (field : String)
  | unsupportedDriver (name : String)
  | unknownTlsMode (mode : String)
  | wrongFamily (side : Side)
  | zeroSetting (field : String)
  | noTarget
  | malformedAddress (reason : String)
  | noTlsToBuild
  | stated (text : String)
  deriving Repr, DecidableEq

/-- The wording of a refused setting. -/
def SettingsProblem.message : SettingsProblem → String
  | blank side field => side.label ++ "." ++ field ++ " is required"
  | unsupportedDriver name => "unsupported driver '" ++ name ++ "'"
  | unknownTlsMode mode =>
    "Invalid ssl_mode '" ++ mode ++ "'. Valid values: disable, require, verify-ca, verify-full"
  | wrongFamily .source => "source must be a PostgreSQL connection"
  | wrongFamily .target => "target must be an Oracle connection"
  | zeroSetting field => "migration." ++ field ++ " must be at least 1"
  | noTarget => "target is required for migrate"
  | malformedAddress reason => "invalid PostgreSQL URI: " ++ reason
  | noTlsToBuild => "Cannot build TLS config for ssl_mode=disable"
  | stated text => text

/-- A fault of the program. A fault of the source or of the file system carries the message of the
call and the causes behind that one. -/
inductive Fault where
  | settings (problem : SettingsProblem)
  | yaml
  | source (message : String) (causes : List String)
  | extraction (text : String)
  | target (message : String)
  | pool (message context : String)
  | transfer (table message : String)
  | file (message : String) (causes : List String)
  | task (text : String)
  | json
  deriving Repr, DecidableEq

namespace Fault

/-- The message of a fault; the faults of the readers of texts have no further wording here. -/
def message : Fault → String
  | settings problem => "Configuration error: " ++ problem.message
  | yaml => "YAML error"
  | source text _ => "Source database error: " ++ text
  | extraction text => "Schema extraction failed: " ++ text
  | target text => "Target database error: " ++ text
  | pool text context => "Pool error: " ++ text ++ "\n  Context: " ++ context
  | transfer table text => "Transfer failed for table " ++ table ++ ": " ++ text
  | file text _ => "IO error: " ++ text
  | task text => "Task failed: " ++ text
  | json => "JSON error"

/-- The text of a fault of a database or a file without the words for its kind. -/
def reason : Fault → String
  | source text _ | target text | file text _ => text
  | fault => fault.message

/-- The exit code of a fault, by its kind. -/
def exitCode : Fault → Nat
  | settings _ | yaml => 1
  | source .. | extraction _ => 2
  | target _ => 3
  | pool .. => 4
  | transfer .. => 5
  | file .. => 7
  | task _ | json => 8

/-- The causes behind a fault, the outermost first. -/
def causes : Fault → List String
  | source text behind | file text behind => text :: behind
  | target text => [text]
  | _ => []

/-- The causes with their depth, one a line. -/
def numberedCauses : Nat → List String → String
  | _, [] => ""
  | depth, cause :: rest =>
    "\nCaused by:\n  " ++ toString depth ++ ": " ++ cause ++ numberedCauses (depth + 1) rest

/-- The message and the causes behind it. -/
def detailed (fault : Fault) : String :=
  "Error: " ++ fault.message ++ "\n" ++ numberedCauses 1 fault.causes

end Fault

end SchemaFerry
