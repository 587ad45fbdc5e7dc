/-
**The shortest decimal that reads back.**

A decimal reads back as a finite number if it lies in the interval of the reals that round to it;
the ends belong to the interval exactly if the mantissa is even. For one digit, two digits and so
on, the two decimals with that many digits next to the number are tried; the first count of digits
with a decimal in the interval wins, of two such decimals the nearer one, and of two equally near
the one with the even last digit.
-/

import SchemaFerry.Number.Binary64

namespace SchemaFerry.Number

/-- The decimal `digits · 10 ^ exponent`. -/
structure Decimal where
  digits : Nat
  exponent : Int
  deriving Repr, DecidableEq

/-- The greatest power of ten that is not above a positive number, as its exponent. -/
def decimalMagnitude (mantissa : Nat) (exponent : Int) : Int :=
  let estimate := ((Nat.log2 mantissa : Int) + exponent) * 1233 / 4096
  let reaches := fun power : Int =>
    let fraction := scaledFraction mantissa exponent (-power)
    decide (fraction.2 ≤ fraction.1)
  (([estimate + 2, estimate + 1, estimate, estimate - 1].find? reaches)).getD (estimate - 2)

/-- The decimal with a given last place next to the number that reads back, the nearer of two. -/
def decimalAt? (mantissa : Nat) (exponent place : Int) : Option Decimal :=
  let quarter := scaledFraction 1 (exponent - 2) (-place)
  let below := if mantissa = 0x10000000000000 ∧ -1074 < exponent then 1 else 2
  let low := (4 * mantissa - below) * quarter.1
  let high := (4 * mantissa + 2) * quarter.1
  let value := 4 * mantissa * quarter.1
  let readsBack := fun digits : Nat =>
    let point := digits * quarter.2
    if mantissa % 2 = 0 then decide (low ≤ point ∧ point ≤ high)
    else decide (low < point ∧ point < high)
  let floor := value / quarter.2
  let down := value - floor * quarter.2
  let up := (floor + 1) * quarter.2 - value
  let nearer :=
    if down < up then floor else if up < down then floor + 1 else floor + floor % 2
  let farther := if nearer = floor then floor + 1 else floor
  if readsBack nearer then some ⟨nearer, place⟩
  else if readsBack farther then some ⟨farther, place⟩
  else none

/-- The decimal without the zeros at its end, one digit kept. -/
def Decimal.trimZeros : Nat → Decimal → Decimal
  | 0, decimal => decimal
  | count + 1, decimal =>
    if decimal.digits % 10 = 0 then
      Decimal.trimZeros count ⟨decimal.digits / 10, decimal.exponent + 1⟩
    else decimal

/-- The shortest decimal that reads back as a positive number. -/
def shortest (mantissa : Nat) (exponent : Int) : Decimal :=
  let magnitude := decimalMagnitude mantissa exponent
  let found := (List.range 18).findSome? fun count : Nat =>
    decimalAt? mantissa exponent (magnitude - count)
  (found.getD ⟨mantissa, 0⟩).trimZeros 20

end SchemaFerry.Number
