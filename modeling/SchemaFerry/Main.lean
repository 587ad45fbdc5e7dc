/-
**The program.**

Reads the arguments and the file of settings, does what they ask for and ends with the exit code of
what came of it. No client of either database is linked, so that neither can be reached and no copy
gets as far as being timed.
-/

import SchemaFerry.CommandLine.Perform

open SchemaFerry SchemaFerry.CommandLine

/-- The number of a failure of a call to the file system. -/
def failureNumber (problem : IO.Error) : Nat :=
  match problem with
  | .noFileOrDirectory _ number _ | .interrupted _ number _ => number.toNat
  | .alreadyExists _ number _ | .invalidArgument _ number _ | .permissionDenied _ number _
  | .resourceExhausted _ number _ | .inappropriateType _ number _ | .noSuchThing _ number _ =>
    number.toNat
  | .otherError number _ | .resourceBusy number _ | .resourceVanished number _
  | .unsupportedOperation number _ | .hardwareFault number _ | .unsatisfiedConstraints number _
  | .illegalOperation number _ | .protocolError number _ | .timeExpired number _ => number.toNat
  | .unexpectedEof | .userError _ => 5

/-- A call to the file system with its failure as a fault. -/
def fileCall {α : Type} (call : IO α) : IO (Except Fault α) := do
  match ← call.toBaseIO with
  | .ok value => return .ok value
  | .error problem => return .error (File.systemFault (failureNumber problem))

/-- Writes what there is to write; the fault if it cannot be written. -/
def writeFile (file : Option (String × String)) : IO (Option Fault) := do
  match file with
  | none => return none
  | some (path, text) =>
    match ← fileCall (IO.FS.writeFile path text) with
    | .ok _ => return none
    | .error fault => return some fault

/-- Does what is left to do. -/
def finish (deed : Deed) : IO UInt32 := do
  let unwritten ← writeFile deed.file
  if unwritten.isNone then IO.print deed.output
  let fault := unwritten.or deed.fault
  if let some fault := fault then IO.eprintln fault.detailed
  return (exitCodeOf fault).toUInt32

/-- Answers arguments that do not ask for work. -/
def answerRefusal (refusal : Refusal) : IO UInt32 := do
  match refusal with
  | .help => IO.print helpText
  | .version => IO.println versionText
  | .usage => IO.eprint helpText
  return refusal.exitCode.toUInt32

/-- The times of a run that is never reached. -/
def untimed : Run.Timing where
  runId := ""
  started := ⟨0, 0⟩
  completed := ⟨0, 0⟩
  seconds := 0
  tableSeconds _ := 0

def main (arguments : List String) : IO UInt32 := do
  match Arguments.read arguments with
  | .error refusal => answerRefusal refusal
  | .ok arguments =>
    let file ← fileCall (IO.FS.readBinFile arguments.settingsPath)
    let servers : Run.Servers Unit Unit := ⟨Source.unreachable Unit, Target.unreachable Unit⟩
    let (left, _) := deed servers untimed arguments (file.map (·.toList)) ⟨(), (), []⟩
    finish left
