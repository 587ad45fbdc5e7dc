/-
**Values on their way to the destination.**

A value is bound in one of seven forms; an absent value keeps its form, so that all rows of a batch
are bound alike.

* `Value.isNull_iff`: an absent value of any form is null, and no other is.
-/

import SchemaFerry.Copy.Kind

namespace SchemaFerry.Copy

/-- The form in which a value is bound. -/
inductive Form where
  | integer
  | float
  | text
  | bytes
  | date
  | timestamp
  | timestampWithZone
  deriving Repr, DecidableEq

/-- A bound value. Floating point numbers are words; dates are counted in days, times in
microseconds from the start of 1970. -/
inductive Value where
  | integer (value : Option Int)
  | float (bits : Option UInt64)
  | text (value : Option String)
  | bytes (value : Option (List UInt8))
  | date (days : Option Int)
  | timestamp (microseconds : Option Int)
  | timestampWithZone (microseconds : Option Int)
  deriving Repr, DecidableEq

namespace Value

/-- The form of a value. -/
def form : Value → Form
  | integer _ => .integer
  | float _ => .float
  | text _ => .text
  | bytes _ => .bytes
  | date _ => .date
  | timestamp _ => .timestamp
  | timestampWithZone _ => .timestampWithZone

/-- Whether a value is absent. -/
def isNull : Value → Bool
  | integer value | date value | timestamp value | timestampWithZone value => value.isNone
  | float bits => bits.isNone
  | text value => value.isNone
  | bytes value => value.isNone

/-- The absent value of a form. -/
def absent : Form → Value
  | .integer => integer none
  | .float => float none
  | .text => text none
  | .bytes => bytes none
  | .date => date none
  | .timestamp => timestamp none
  | .timestampWithZone => timestampWithZone none

/-- An absent value of any form is null, and no other is. -/
theorem isNull_iff (value : Value) : value.isNull = true ↔ value = absent value.form := by
  cases value <;> simp [isNull, absent, form]

end Value

/-- The form in which a column of a kind is bound. -/
def Kind.form : Kind → Form
  | .integer | .boolean => .integer
  | .float | .interval => .float
  | .text | .uuid | .json | .cast | .unhandled => .text
  | .bytes => .bytes
  | .date => .date
  | .timestamp => .timestamp
  | .timestampWithZone => .timestampWithZone

end SchemaFerry.Copy
