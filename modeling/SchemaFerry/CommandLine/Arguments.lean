/-
**Arguments of the command line.**

Options of the program stand before a subcommand, those of the subcommand after it. A long option
takes its value from the next argument or after an equals sign, a short one also directly; an option
that takes one value may stand once. Help and version are answered where they stand, before the rest
is looked at. An option whose value is an argument of its own is checked when the next option is
met, the last one of the program only after the options of the subcommand.
-/

import SchemaFerry.Number.Whole
import SchemaFerry.Text.Split

namespace SchemaFerry.CommandLine

open SchemaFerry.Text

/-- What the value of an option is. -/
inductive ValueKind where
  | flag
  | text
  | path
  | count
  deriving Repr, DecidableEq

/-- An option: its long name, its short one, what its value is and whether it may stand again. -/
structure OptionRule where
  name : String
  letter : Option Char
  kind : ValueKind
  repeats : Bool
  deriving Repr, DecidableEq

/-- The options of the program. -/
def programOptions : List OptionRule :=
  [⟨"config", some 'c', .path, false⟩, ⟨"output-json", none, .flag, false⟩,
    ⟨"log-format", none, .text, false⟩, ⟨"verbosity", none, .text, false⟩]

/-- The options of the subcommand that generates a script. -/
def scriptOptions : List OptionRule :=
  [⟨"target-schema", none, .text, false⟩, ⟨"edit-role", none, .text, false⟩,
    ⟨"view-role", none, .text, false⟩, ⟨"edit-user", none, .text, true⟩,
    ⟨"view-user", none, .text, true⟩, ⟨"output", some 'o', .path, false⟩]

/-- The options of the subcommand that copies. -/
def copyOptions : List OptionRule :=
  [⟨"source-schema", none, .text, false⟩, ⟨"target-schema", none, .text, false⟩,
    ⟨"workers", none, .count, false⟩, ⟨"batch-size", none, .count, false⟩]

/-- How the arguments are taken that do not ask for work. -/
inductive Refusal where
  | help
  | version
  | usage
  deriving Repr, DecidableEq

/-- Options with their values, in the order in which they stand. -/
abbrev Given := List (String × String)

/-- The values of an option. -/
def Given.all (given : Given) (name : String) : List String :=
  (given.filter fun entry => entry.1 == name).map Prod.snd

/-- The value of an option. -/
def Given.value? (given : Given) (name : String) : Option String :=
  (given.all name).head?

/-- The greatest count that an option takes. -/
def count? (text : String) : Option Nat :=
  Number.natural? 10 Number.maxNat64 text.toList

/-- Whether an option takes a value. -/
def ValueKind.accepts (kind : ValueKind) (value : String) : Bool :=
  match kind with
  | flag => false
  | text => true
  | path => !value.isEmpty
  | count => (count? value).isSome

/-- One more option with its value, if it may stand and takes the value. -/
def Given.add (given : Given) (rule : OptionRule) (value : String) : Except Refusal Given :=
  if !rule.kind.accepts value then .error .usage
  else if !rule.repeats && (given.value? rule.name).isSome then .error .usage
  else .ok (given ++ [(rule.name, value)])

/-- One more option without a value. -/
def Given.addFlag (given : Given) (rule : OptionRule) : Except Refusal Given :=
  if (given.value? rule.name).isSome then .error .usage else .ok (given ++ [(rule.name, "")])

/-- Whether an argument looks like an option, so that it cannot be the value of one. -/
def looksLikeOption (argument : String) : Bool :=
  match argument.toList with
  | '-' :: _ :: _ => true
  | _ => false

/-- The answers to arguments that stand for themselves: help, and the version where it is known. The
short ones may have more letters after them. -/
def answer? (hasVersion : Bool) (argument : String) : Option Refusal :=
  match argument.toList with
  | '-' :: 'h' :: _ => some .help
  | '-' :: 'V' :: _ => if hasVersion then some .version else none
  | _ =>
    if argument == "--help" then some .help
    else if hasVersion && argument == "--version" then some .version
    else none

/-- A long option: its name and the value after an equals sign. -/
def splitLong (letters : List Char) : String × Option String :=
  match cutAtFirst? '=' letters with
  | some (name, value) => (String.ofList name, some (String.ofList value))
  | none => (String.ofList letters, none)

/-- The value written directly after a short option. -/
def attached? : List Char → Option String
  | [] => none
  | '=' :: rest => some (String.ofList rest)
  | letters => some (String.ofList letters)

/-- An option at the front of the arguments: its rule and the value that goes with it. -/
def optionAt? (rules : List OptionRule) (argument : String) :
    Option (OptionRule × Option String) :=
  match argument.toList with
  | '-' :: '-' :: letters =>
    let (name, value) := splitLong letters
    (rules.find? fun rule => rule.name == name).map fun rule => (rule, value)
  | '-' :: letter :: rest =>
    (rules.find? fun rule => rule.letter == some letter).map fun rule => (rule, attached? rest)
  | _ => none

/-- What an option at the front of the arguments turns out to be: complete, or open for a value from
the next argument. -/
inductive Front where
  | complete (given : Given)
  | open (rule : OptionRule)
  deriving Repr, DecidableEq

/-- Looks at an option at the front of the arguments. -/
def front (rules : List OptionRule) (hasVersion : Bool) (given : Given) (argument : String) :
    Except Refusal Front :=
  match answer? hasVersion argument with
  | some refusal => .error refusal
  | none =>
    match optionAt? rules argument with
    | none => .error .usage
    | some (rule, some value) =>
      if rule.kind = .flag then .error .usage else (given.add rule value).map .complete
    | some (rule, none) =>
      if rule.kind = .flag then (given.addFlag rule).map .complete else .ok (.open rule)

/-- Options that have been read: those checked, and the last one if its value was an argument of its
own. -/
structure Taken where
  given : Given
  last : Option (OptionRule × String)
  deriving Repr, DecidableEq

/-- No options. -/
def Taken.empty : Taken :=
  ⟨[], none⟩

/-- The options with the last one checked too. -/
def Taken.checked (taken : Taken) : Except Refusal Given :=
  match taken.last with
  | some (rule, value) => taken.given.add rule value
  | none => .ok taken.given

/-- Reads options until an argument that is none. -/
def readOptions (rules : List OptionRule) (hasVersion : Bool) :
    Taken → List String → Except Refusal (Taken × List String)
  | taken, [] => .ok (taken, [])
  | taken, [argument] =>
    if !looksLikeOption argument then .ok (taken, [argument])
    else do
      match ← front rules hasVersion (← taken.checked) argument with
      | .complete given => return (⟨given, none⟩, [])
      | .open _ => throw .usage
  | taken, argument :: next :: rest =>
    if !looksLikeOption argument then .ok (taken, argument :: next :: rest)
    else do
      let checked ← taken.checked
      match ← front rules hasVersion checked argument with
      | .complete given => readOptions rules hasVersion ⟨given, none⟩ (next :: rest)
      | .open rule =>
        if looksLikeOption next then throw .usage
        else readOptions rules hasVersion ⟨checked, some (rule, next)⟩ rest

/-- The argument that ends the options. -/
def endMark : String := "--"

/-- What the program is asked to do. -/
inductive Subcommand where
  | generateScripts (given : Given)
  | migrate (given : Given)
  deriving Repr, DecidableEq

/-- The arguments of the program. -/
structure Arguments where
  options : Given
  subcommand : Subcommand
  deriving Repr, DecidableEq

/-- Reads the options of a subcommand, after which nothing may stand but the mark of their end. -/
def readSubcommand (rules : List OptionRule) (arguments : List String) : Except Refusal Given := do
  let marked := arguments.getLast? == some endMark
  match ← readOptions rules false .empty (if marked then arguments.dropLast else arguments) with
  | (taken, []) => taken.checked
  | _ => throw .usage

/-- The subcommand for help shows that of the program or of one subcommand. -/
def readHelp : List String → Refusal
  | [] | ["generate-scripts"] | ["migrate"] | ["help"] => .help
  | _ => .usage

/-- Reads the arguments of the program. -/
def Arguments.read (arguments : List String) : Except Refusal Arguments := do
  match ← readOptions programOptions true .empty arguments with
  | (_, []) => throw .usage
  | (taken, "generate-scripts" :: rest) => do
    let given ← readSubcommand scriptOptions rest
    return ⟨← taken.checked, .generateScripts given⟩
  | (taken, "migrate" :: rest) => do
    let given ← readSubcommand copyOptions rest
    return ⟨← taken.checked, .migrate given⟩
  | (_, "help" :: rest) => throw (readHelp rest)
  | _ => throw .usage

/-- The path of the settings where none is given. -/
def standardPath : String := "config.yaml"

/-- The path of the settings. -/
def Arguments.settingsPath (arguments : Arguments) : String :=
  (arguments.options.value? "config").getD standardPath

/-- Whether results are written as JSON. -/
def Arguments.writesJson (arguments : Arguments) : Bool :=
  (arguments.options.value? "output-json").isSome

end SchemaFerry.CommandLine
