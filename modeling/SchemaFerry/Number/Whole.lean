/-
**Whole numbers in texts.**

`digitsValue?` reads digits of a radix. A natural number may have a plus sign in front of its
digits, an integer a sign of either kind; both must lie within bounds.

* `natural?_le`, `integer?_within`: what is read lies within the bounds.
-/

import SchemaFerry.Text.Utf8

namespace SchemaFerry.Number

/-- The value of a digit of a radix up to sixteen. -/
def digitValue? (radix : Nat) (letter : Char) : Option Nat :=
  (Text.hexValue? letter).filter (· < radix)

/-- The value of one or more digits. -/
def digitsValue? (radix : Nat) (letters : List Char) : Option Nat :=
  if letters.isEmpty then none
  else letters.foldlM (fun value letter => (digitValue? radix letter).map (radix * value + ·)) 0

/-- Reads a natural number up to a limit. -/
def natural? (radix limit : Nat) (letters : List Char) : Option Nat :=
  let digits :=
    match letters with
    | '+' :: rest => rest
    | _ => letters
  (digitsValue? radix digits).filter (· ≤ limit)

/-- Reads an integer between two bounds. -/
def integer? (radix : Nat) (low high : Int) (letters : List Char) : Option Int :=
  let value? : Option Int :=
    match letters with
    | '+' :: rest => (digitsValue? radix rest).map Int.ofNat
    | '-' :: rest => (digitsValue? radix rest).map fun value => -Int.ofNat value
    | _ => (digitsValue? radix letters).map Int.ofNat
  value?.filter fun value => low ≤ value && value ≤ high

/-- The greatest number of 64 bits without a sign. -/
def maxNat64 : Nat := 0xFFFFFFFFFFFFFFFF

/-- The least and the greatest number of 64 bits with a sign. -/
def minInt64 : Int := -0x8000000000000000

@[inherit_doc minInt64]
def maxInt64 : Int := 0x7FFFFFFFFFFFFFFF

/-- A number fits 64 bits with a sign. -/
def FitsWord (value : Int) : Prop := minInt64 ≤ value ∧ value ≤ maxInt64

instance : DecidablePred FitsWord := fun value =>
  inferInstanceAs (Decidable (minInt64 ≤ value ∧ value ≤ maxInt64))

/-! ### Lemmas -/

/-- A natural number that was read is within its limit. -/
theorem natural?_le {radix limit value : Nat} {letters : List Char}
    (read : natural? radix limit letters = some value) : value ≤ limit := by
  unfold natural? at read
  simpa using (Option.filter_eq_some_iff.1 read).2

/-- An integer that was read is within its bounds. -/
theorem integer?_within {radix : Nat} {low high value : Int} {letters : List Char}
    (read : integer? radix low high letters = some value) : low ≤ value ∧ value ≤ high := by
  unfold integer? at read
  simpa using (Option.filter_eq_some_iff.1 read).2

end SchemaFerry.Number
