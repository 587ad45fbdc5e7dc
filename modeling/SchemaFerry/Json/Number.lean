/-
**Numbers in JSON texts.**

A whole number without a fraction or an exponent that fits 64 bits, signed or unsigned, is read as
it is; every other number as a floating point number. That is computed from the first digits that
fit 64 bits and a power of ten, by one multiplication or division for powers up to 308, so that the
last bit may differ from the nearest number's. A number too large for a floating point number is
refused.
-/

import SchemaFerry.Json.Basic
import SchemaFerry.Number.Whole

namespace SchemaFerry.Json

/-- Whether a character is a decimal digit. -/
def isDigit (letter : Char) : Bool :=
  48 ≤ letter.toNat && letter.toNat ≤ 57

/-- The parts of a written number: digits before and after the point, and the power of ten. -/
structure NumberText where
  negative : Bool
  whole : List Char
  fraction : Option (List Char)
  power : Option Int
  deriving Repr

/-- The number that decimal digits stand for. -/
def digitsValue (digits : List Char) : Nat :=
  digits.foldl (fun value digit => 10 * value + (digit.toNat - 48)) 0

/-- Splits off a sign, digits, a fraction and an exponent; a fraction and an exponent must have
digits, and the whole part no zero at its front. -/
def NumberText.read? (letters : List Char) : Option (NumberText × List Char) := do
  let (negative, unsigned) :=
    match letters with
    | '-' :: rest => (true, rest)
    | _ => (false, letters)
  let whole := unsigned.takeWhile isDigit
  let afterWhole := unsigned.dropWhile isDigit
  if whole.isEmpty then none
  if whole.head? == some '0' && whole.length != 1 then none
  let (fraction, afterFraction) ←
    match afterWhole with
    | '.' :: rest =>
      let digits := rest.takeWhile isDigit
      if digits.isEmpty then none else some (some digits, rest.dropWhile isDigit)
    | _ => some (none, afterWhole)
  let (power, afterPower) ←
    match afterFraction with
    | mark :: rest =>
      if mark == 'e' || mark == 'E' then
        let (sign, unsignedPower) : Int × List Char :=
          match rest with
          | '+' :: tail => (1, tail)
          | '-' :: tail => (-1, tail)
          | _ => (1, rest)
        let digits := unsignedPower.takeWhile isDigit
        if digits.isEmpty then none
        else some (some (sign * digitsValue digits), unsignedPower.dropWhile isDigit)
      else some (none, afterFraction)
    | [] => some (none, [])
  return (⟨negative, whole, fraction, power⟩, afterPower)

/-- The leading digits whose value fits 64 bits, as their value and count. -/
def leadingValue (value count : Nat) : List Char → Nat × Nat
  | [] => (value, count)
  | digit :: rest =>
    let next := 10 * value + (digit.toNat - 48)
    if next ≤ Number.maxNat64 then leadingValue next (count + 1) rest else (value, count)

/-- Scales by a power of ten in steps of at most 308; nothing when the result is infinite. -/
def scaleByTen : Nat → Float → Int → Option Float
  | 0, value, _ => some value
  | steps + 1, value, power =>
    if power.natAbs ≤ 308 then
      if 0 ≤ power then
        let scaled := value * Float.ofScientific 1 false power.natAbs
        if scaled.isInf then none else some scaled
      else some (value / Float.ofScientific 1 false power.natAbs)
    else if value == 0 then some value
    else if 0 ≤ power then none
    else scaleByTen steps (value / Float.ofScientific 1 false 308) (power + 308)

/-- The floating point number of the parts. -/
def NumberText.toFloat? (number : NumberText) : Option Float := do
  let fraction := number.fraction.getD []
  let (wholeValue, wholeCount) := leadingValue 0 0 number.whole
  let dropped := number.whole.length - wholeCount
  let (value, count) := leadingValue wholeValue 0 fraction
  let power := (dropped : Int) - count + number.power.getD 0
  let magnitude ← scaleByTen 8 value.toUInt64.toFloat (max (-4000) (min 4000 power))
  return if number.negative then -magnitude else magnitude

/-- The value of the parts. -/
def NumberText.toJson? (number : NumberText) : Option Json :=
  let value := digitsValue number.whole
  let signed : Int := if number.negative then -value else value
  if number.fraction.isNone ∧ number.power.isNone ∧ Number.minInt64 ≤ signed ∧
      signed ≤ Number.maxNat64 ∧
      ¬(number.negative ∧ value = 0) then
    some (.int signed)
  else
    number.toFloat?.map fun value => .float value.toBits

end SchemaFerry.Json
