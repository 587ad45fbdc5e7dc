/-
**Reading the values of the source.**

The source sends the values of a row as octets, numbers with the most significant octet first, each
with the type in which it sends them. A column accepts the types of its kind only, also for absent
values; the first column of a row that cannot be read is the fault of the row.

* `Kind.read_form`: what is read has the form of the column's kind.
-/

import SchemaFerry.Copy.Value
import SchemaFerry.Fault
import SchemaFerry.Json.Printer
import SchemaFerry.Json.Reader
import SchemaFerry.Text.Utf8
import SchemaFerry.Time.Calendar

namespace SchemaFerry.Copy

/-- A column of a copy with the type in which its values are sent. -/
structure WireColumn where
  column : BoundColumn
  wireType : String
  deriving Repr, DecidableEq

/-- The types in which the values of a kind may be sent. -/
def Kind.wireTypes : Kind → List String
  | .integer => ["int8"]
  | .float | .interval => ["float8"]
  | .boolean => ["bool"]
  | .text | .cast | .unhandled => ["text", "varchar", "bpchar", "name", "unknown"]
  | .uuid => ["uuid"]
  | .json => ["json", "jsonb"]
  | .bytes => ["bytea"]
  | .date => ["date"]
  | .timestamp => ["timestamp"]
  | .timestampWithZone => ["timestamptz"]

/-- The natural number of octets. -/
def naturalOf (octets : List UInt8) : Nat :=
  octets.foldl (fun value octet => 256 * value + octet.toNat) 0

/-- The integer of a given count of octets. -/
def integerOf? (count : Nat) (octets : List UInt8) : Option Int :=
  if octets.length = count then
    let value := naturalOf octets
    let count := Nat.pow 256 count
    some (if 2 * value < count then value else (value : Int) - count)
  else none

/-- The first day of 2000, from which the source counts. -/
def firstDay : Int := 10957

/-- The years that a date may have. -/
def isYear (year : Int) : Bool :=
  -262143 ≤ year && year ≤ 262142

/-- A day, unless its year is out of bounds. -/
def dayWithin? (day : Int) : Option Int :=
  if isYear (Time.Date.ofDays day).year then some day else none

/-- The microseconds of a day. -/
def microsecondsOfDay : Int := 86400000000

/-- A time, unless its year is out of bounds. -/
def timeWithin? (microseconds : Int) : Option Int :=
  if isYear (Time.Date.ofDays (microseconds.fdiv microsecondsOfDay)).year then some microseconds
  else none

/-- A time that the source counted. -/
def timeOf? (octets : List UInt8) : Option Int :=
  (integerOf? 8 octets).bind fun count => timeWithin? (count + firstDay * microsecondsOfDay)

/-- The text of a universally unique identifier. -/
def uuidText? (octets : List UInt8) : Option String :=
  if octets.length = 16 then
    let part := fun start count => Text.hexOfOctets ((octets.drop start).take count)
    some ("-".intercalate [part 0 4, part 4 2, part 6 2, part 8 2, part 10 6])
  else none

/-- The text of a JSON value, without blanks and with its keys in order. -/
def jsonText? (octets : List UInt8) : Option String :=
  (Text.ofUtf8? octets).bind fun text => (Json.parse? text).map Json.compact

/-- The octets of a JSON text: in the binary form a one stands before it. -/
def jsonOctets? (wireType : String) (octets : List UInt8) : Option (List UInt8) :=
  if wireType == "jsonb" then
    match octets with
    | 1 :: rest => some rest
    | _ => none
  else some octets

/-- The word of eight octets. -/
def wordOf? (octets : List UInt8) : Option UInt64 :=
  if octets.length = 8 then some (UInt64.ofNat (naturalOf octets)) else none

/-- The truth value of an octet as a number: any octet but zero is true. -/
def truthOf? (octets : List UInt8) : Option Int :=
  match octets with
  | [octet] => some (if octet = 0 then 0 else 1)
  | _ => none

/-- The day of four octets. -/
def dayOf? (octets : List UInt8) : Option Int :=
  (integerOf? 4 octets).bind fun day => dayWithin? (day + firstDay)

/-- Reads a value that is there. -/
def Kind.readPresent (kind : Kind) (wireType : String) (octets : List UInt8) : Option Value :=
  match kind with
  | .integer => (integerOf? 8 octets).map fun value => .integer (some value)
  | .float | .interval => (wordOf? octets).map fun bits => .float (some bits)
  | .boolean => (truthOf? octets).map fun value => .integer (some value)
  | .text | .cast | .unhandled => (Text.ofUtf8? octets).map fun text => .text (some text)
  | .uuid => (uuidText? octets).map fun text => .text (some text)
  | .json => ((jsonOctets? wireType octets).bind jsonText?).map fun text => .text (some text)
  | .bytes => some (.bytes (some octets))
  | .date => (dayOf? octets).map fun day => .date (some day)
  | .timestamp => (timeOf? octets).map fun time => .timestamp (some time)
  | .timestampWithZone => (timeOf? octets).map fun time => .timestampWithZone (some time)

/-- Reads a value. -/
def Kind.read (kind : Kind) (wireType : String) (octets : Option (List UInt8)) : Option Value :=
  if kind.wireTypes.contains wireType then
    match octets with
    | some octets => kind.readPresent wireType octets
    | none => some (Value.absent kind.form)
  else none

/-- The fault of a row whose value in a column cannot be read. -/
def unreadable (index : Nat) : Fault :=
  .source ("error deserializing column " ++ toString index) []

/-- Reads the values of a row from a position on. -/
def readFrom (index : Nat) :
    List WireColumn → List (Option (List UInt8)) → Except Fault (List Value)
  | [], _ => .ok []
  | column :: columns, values => do
    match column.column.kind.read column.wireType (values.headD none) with
    | some value => return value :: (← readFrom (index + 1) columns (values.drop 1))
    | none => throw (unreadable index)

/-- Reads a row. -/
def readRow (columns : List WireColumn) (values : List (Option (List UInt8))) :
    Except Fault (List Value) :=
  readFrom 0 columns values

/-! ### Lemmas -/

theorem form_of_map {γ : Type} {source : Option γ} {make : γ → Value} {value : Value} {form : Form}
    (made : ∀ part, (make part).form = form) (read : source.map make = some value) :
    value.form = form := by
  obtain ⟨part, _, rfl⟩ := Option.map_eq_some_iff.1 read
  exact made part

theorem Kind.readPresent_form {kind : Kind} {wireType : String} {octets : List UInt8}
    {value : Value}
    (read : kind.readPresent wireType octets = some value) : value.form = kind.form := by
  cases kind with
  | bytes =>
    obtain rfl := Option.some.inj read
    rfl
  | _ => exact form_of_map (fun _ => rfl) read

/-- What is read has the form of the column's kind. -/
theorem Kind.read_form {kind : Kind} {wireType : String} {octets : Option (List UInt8)}
    {value : Value} (read : kind.read wireType octets = some value) : value.form = kind.form := by
  unfold Kind.read at read
  split at read
  · split at read
    · exact Kind.readPresent_form read
    · obtain rfl := Option.some.inj read
      cases kind <;> rfl
  · simp at read

end SchemaFerry.Copy
