/-
**Sequences in memory.**

Tables with their greatest identifiers and sequences with their last numbers and steps, as the
operations on them change them. Every call is noted, and one that is listed to fail does nothing
else.
-/

import SchemaFerry.Keyed
import SchemaFerry.Sequences.Basic

namespace SchemaFerry.Sequences

/-- A call of an operation. -/
inductive Call where
  | tablesStartingWith (start : String)
  | hasIdentifier (table : String)
  | greatestIdentifier (table : String)
  | draw (sequence : String)
  | setStep (sequence : String) (step : Int)
  deriving Repr, DecidableEq

/-- Which operation a call is of. -/
inductive Operation where
  | tablesStartingWith
  | hasIdentifier
  | greatestIdentifier
  | draw
  | setStep
  deriving Repr, DecidableEq

/-- The operation of a call. -/
def Call.operation : Call → Operation
  | tablesStartingWith _ => .tablesStartingWith
  | hasIdentifier _ => .hasIdentifier
  | greatestIdentifier _ => .greatestIdentifier
  | draw _ => .draw
  | setStep .. => .setStep

/-- A table: whether it has the column of identifiers, and the greatest of them. -/
structure TableFacts where
  hasIdentifier : Bool
  greatest : Option Int
  deriving Repr, DecidableEq

/-- A sequence: the last number drawn and the step to the next. -/
structure Counter where
  last : Int
  step : Int
  deriving Repr, DecidableEq

/-- A call that fails: the operation, the number of its call and the message. -/
structure Failure where
  operation : Operation
  number : Nat
  message : String
  deriving Repr, DecidableEq

/-- Tables and sequences by name, the calls so far, the last first, the calls that fail, and answers
to searches that are set. -/
structure Memory where
  tables : List (String × TableFacts)
  sequences : List (String × Counter)
  calls : List Call
  failures : List Failure
  answers : List (String × List String)
  deriving Repr

namespace Memory

/-- The fault of the call noted last, if it is listed to fail. -/
def failure? (memory : Memory) (operation : Operation) : Option Fault :=
  let number := memory.calls.countP fun call => call.operation == operation
  (memory.failures.find? fun failure =>
    failure.operation == operation && failure.number == number).map fun failure =>
    .settings (.stated failure.message)

/-- A call: it is noted, and answered unless it is listed to fail. -/
def serve {α : Type} (call : Call) (answer : Memory → Except Fault α × Memory) :
    Session Memory α :=
  Session.ofFunction fun memory =>
    let noted := { memory with calls := call :: memory.calls }
    match noted.failure? call.operation with
    | some fault => (.error fault, noted)
    | none => answer noted

/-- The sequence of a name, which must be there. -/
def counter (memory : Memory) (sequence : String) : Except Fault Counter :=
  match memory.sequences.lookup sequence with
  | some counter => .ok counter
  | none => .error (.settings (.stated ("no sequence " ++ sequence)))

/-- Changes a sequence and answers with a part of it. -/
def change {α : Type} (sequence : String) (step : Counter → Counter) (answer : Counter → α)
    (memory : Memory) : Except Fault α × Memory :=
  match memory.counter sequence with
  | .ok counter =>
    (.ok (answer (step counter)),
      { memory with sequences := Keyed.insert sequence (step counter) memory.sequences })
  | .error fault => (.error fault, memory)

/-- The names of the tables that start with a text. -/
def tablesFrom (memory : Memory) (start : String) : List String :=
  match memory.answers.lookup start with
  | some names => names
  | none =>
    (memory.tables.map Prod.fst).filter fun name => start.toList.isPrefixOf name.toList

/-- The operations on sequences in memory. -/
def operations : Operations Memory where
  tablesStartingWith start :=
    serve (.tablesStartingWith start) fun memory => (.ok (memory.tablesFrom start), memory)
  hasIdentifier table :=
    serve (.hasIdentifier table) fun memory =>
      (.ok ((memory.tables.lookup table).any (·.hasIdentifier)), memory)
  greatestIdentifier table :=
    serve (.greatestIdentifier table) fun memory =>
      (.ok ((memory.tables.lookup table).bind (·.greatest)), memory)
  draw sequence :=
    serve (.draw sequence) (change sequence (fun counter =>
      { counter with last := counter.last + counter.step }) (·.last))
  setStep sequence step :=
    serve (.setStep sequence step) (change sequence (fun counter => { counter with step })
      fun _ => ())

end Memory

end SchemaFerry.Sequences
