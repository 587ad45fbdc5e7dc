/-
**JSON values, and records in them.**

A number is a whole number of 64 bits or a binary floating point number, held as its word. The
members of an object are a list of pairs.

A record is written as an object, whose unknown members are ignored, or as the array of its fields
in their fixed order. In an object an optional field may be missing; in an array only fields at the
end that have a default may be. A value of another kind than the field's is refused.
-/

import SchemaFerry.Number.Whole

namespace SchemaFerry

/-- A JSON value. -/
inductive Json where
  | null
  | bool (value : Bool)
  | int (value : Int)
  | float (bits : UInt64)
  | string (text : String)
  | array (items : List Json)
  | object (members : List (String × Json))
  deriving Repr, Inhabited

namespace Json

/-- The value of a key of an object; nothing for any other value. -/
def member? (key : String) : Json → Option Json
  | object members => members.lookup key
  | _ => none

/-- A value that may be absent, absent being `null`. -/
def ofOption {α : Type} (encode : α → Json) : Option α → Json
  | some value => encode value
  | none => null

/-- A list of texts. -/
def strings (texts : List String) : Json :=
  array (texts.map string)

/-! ### Values -/

/-- A text. -/
def text? : Json → Option String
  | string text => some text
  | _ => none

/-- A truth value. -/
def truth? : Json → Option Bool
  | bool value => some value
  | _ => none

/-- A whole number between two bounds. -/
def wholeBetween? (low high : Int) : Json → Option Int
  | int value => if low ≤ value ∧ value ≤ high then some value else none
  | _ => none

/-- A whole number of 32 bits with a sign. -/
def int32? : Json → Option Int :=
  wholeBetween? (-0x80000000) 0x7FFFFFFF

/-- A whole number of 64 bits with a sign. -/
def int64? : Json → Option Int :=
  wholeBetween? Number.minInt64 Number.maxInt64

/-- A whole number of 64 bits without a sign. -/
def nat64? (value : Json) : Option Nat :=
  (wholeBetween? 0 Number.maxNat64 value).map Int.toNat

/-- An array of values of one kind. -/
def listOf? {α : Type} (decode : Json → Option α) : Json → Option (List α)
  | array items => items.mapM decode
  | _ => none

/-- A value that may be `null`. -/
def nullable? {α : Type} (decode : Json → Option α) : Json → Option (Option α)
  | null => some none
  | value => (decode value).map some

/-- An object whose values are of one kind, as its members. -/
def mapOf? {α : Type} (decode : Json → Option α) : Json → Option (List (String × α))
  | object members =>
    members.mapM fun member => (decode member.2).map fun value => (member.1, value)
  | _ => none

/-! ### Records -/

/-- What the fields of a record are read from. -/
inductive Record where
  | named (members : List (String × Json))
  | listed (items : List Json)

/-- The record of a value, given the count of its fields. -/
def Record.of? (size : Nat) : Json → Option Record
  | object members => some (.named members)
  | array items => if items.length ≤ size then some (.listed items) else none
  | _ => none

/-- The value of a field, if it is there. -/
def Record.field? (position : Nat) (name : String) : Record → Option Json
  | .named members => members.lookup name
  | .listed items => items[position]?

/-- A field that must be there. -/
def Record.required? {α : Type} (record : Record) (position : Nat) (name : String)
    (decode : Json → Option α) : Option α :=
  (record.field? position name).bind decode

/-- A field that may be `null`, or missing from an object. -/
def Record.optional? {α : Type} (record : Record) (position : Nat) (name : String)
    (decode : Json → Option α) : Option (Option α) :=
  match record, record.field? position name with
  | _, some value => nullable? decode value
  | .named _, none => some none
  | .listed _, none => none

end Json

end SchemaFerry
