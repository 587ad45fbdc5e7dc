/-
**Settings of the program.**

Two connections, how the data are copied, and what goes into the script. The destination is needed
only for copying.
-/

namespace SchemaFerry

/-- A connection to a database. -/
structure Connection where
  address : String
  user : String
  password : String
  schema : String
  driver : Option String
  tlsMode : String
  deriving Repr, DecidableEq

/-- How tables are copied. The selects that replace whole tables are in the order of the tables'
names. -/
structure CopySettings where
  workers : Nat
  batchSize : Nat
  timeoutSeconds : Nat
  progressSeconds : Nat
  lockKey : Int
  excludedTables : List String
  customSelects : List (String × String)
  deriving Repr, DecidableEq

/-- What goes into a script. -/
structure ScriptSettings where
  targetSchema : Option String
  editRole : Option String
  viewRole : Option String
  editUsers : List String
  viewUsers : List String
  deriving Repr, DecidableEq

/-- All settings. -/
structure Settings where
  source : Connection
  target : Option Connection
  copying : CopySettings
  scripts : ScriptSettings
  deriving Repr, DecidableEq

/-- The mode of encryption where none is set. -/
def Connection.standardTlsMode : String := "disable"

/-- The key of the lock where none is set; every process that copies shares it. -/
def CopySettings.standardLockKey : Int := 0x50474F524D494752

/-- How tables are copied where nothing is set. -/
def CopySettings.standard : CopySettings :=
  ⟨10, 10000, 600, 30, standardLockKey, [], []⟩

/-- What goes into a script where nothing is set. -/
def ScriptSettings.standard : ScriptSettings :=
  ⟨none, none, none, [], []⟩

/-- The most connections to the source, and to the destination, during a copy: one for each worker,
and two for what goes on beside them. -/
def CopySettings.poolSize (settings : CopySettings) : Nat :=
  settings.workers + 2

/-- The most connections to the source while a script is generated. -/
def scriptPoolSize : Nat := 4

end SchemaFerry
