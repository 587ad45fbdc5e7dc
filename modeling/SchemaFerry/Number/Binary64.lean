/-
**Binary floating point numbers of 64 bits.**

`Binary64.ofBits` reads a word as the number it stands for: a sign, a mantissa and a power of two,
an infinity, or no number at all. `roundedQuotient` is division to the nearest whole number, a tie
going to the even one, and `roundedScaled` applies it to a number times a power of ten.

`ofInt` takes the number nearest to an integer, and `truncatedInt` the integer part of a number.
`fixedPlaces` writes the exact value with a count of decimal places, rounded to the nearest such
decimal; the sign of a negative number is kept even when all its digits are zero.
-/

namespace SchemaFerry.Number

/-- What a word of 64 bits stands for; a finite one is `± mantissa · 2 ^ exponent`. -/
inductive Binary64 where
  | finite (negative : Bool) (mantissa : Nat) (exponent : Int)
  | infinite (negative : Bool)
  | notANumber
  deriving Repr, DecidableEq

/-- Reads a word: one bit of sign, eleven of exponent and fifty-two of fraction. -/
def Binary64.ofBits (bits : UInt64) : Binary64 :=
  let word := bits.toNat
  let negative := 0x8000000000000000 ≤ word
  let exponent : Nat := word / 0x10000000000000 % 0x800
  let fraction : Nat := word % 0x10000000000000
  if exponent = 2047 then
    if fraction = 0 then .infinite negative else .notANumber
  else if exponent = 0 then .finite negative fraction (-1074)
  else .finite negative (0x10000000000000 + fraction) ((exponent : Int) - 1075)

/-- The quotient rounded to the nearest whole number, a tie to the even one. -/
def roundedQuotient (numerator denominator : Nat) : Nat :=
  let quotient := numerator / denominator
  let twice := 2 * (numerator % denominator)
  if twice < denominator then quotient
  else if denominator < twice then quotient + 1
  else quotient + quotient % 2

/-- The numerator and denominator of `mantissa · 2 ^ exponent · 10 ^ places`. -/
def scaledFraction (mantissa : Nat) (exponent places : Int) : Nat × Nat :=
  (mantissa * Nat.pow 2 exponent.toNat * Nat.pow 10 places.toNat,
    Nat.pow 2 (-exponent).toNat * Nat.pow 10 (-places).toNat)

/-- A number times a power of ten, rounded to the nearest whole number. -/
def roundedScaled (mantissa : Nat) (exponent : Int) (places : Nat) : Nat :=
  let fraction := scaledFraction mantissa exponent places
  roundedQuotient fraction.1 fraction.2

/-! ### Integers -/

/-- The number nearest to an integer. -/
def ofInt (value : Int) : Float :=
  if value < 0 then -(Float.ofNat value.natAbs) else Float.ofNat value.toNat

/-- An integer from a number, its fraction cut off; a number beyond the bounds is cut to them and
what is no number is zero. -/
def truncatedInt (low high : Int) (bits : UInt64) : Int :=
  match Binary64.ofBits bits with
  | .notANumber => 0
  | .infinite negative => if negative then low else high
  | .finite negative mantissa exponent =>
    let fraction := scaledFraction mantissa exponent 0
    let size : Int := fraction.1 / fraction.2
    max low (min high (if negative then -size else size))

/-! ### Decimal places -/

/-- A whole number of units of `10 ^ -places` as a decimal. -/
def placeDecimalPoint (places units : Nat) : String :=
  let digits := Nat.toDigits 10 units
  let padded := List.replicate (places + 1 - digits.length) '0' ++ digits
  let whole := padded.take (padded.length - places)
  if places = 0 then String.ofList whole
  else String.ofList (whole ++ '.' :: padded.drop (padded.length - places))

/-- The number with the given count of decimal places. -/
def fixedPlaces (places : Nat) (bits : UInt64) : String :=
  match Binary64.ofBits bits with
  | .finite negative mantissa exponent =>
    (if negative then "-" else "") ++
      placeDecimalPoint places (roundedScaled mantissa exponent places)
  | .infinite negative => if negative then "-inf" else "inf"
  | .notANumber => "NaN"

end SchemaFerry.Number
