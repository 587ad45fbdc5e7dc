/-
**Numeric literals.**

A numeric literal is an optional sign followed by digits with an optional point, at least one digit
in all, and an optional exponent; or, in letters of either case, `inf`, `infinity` or `nan`.
-/

import SchemaFerry.Text.LetterCase

namespace SchemaFerry.Number

/-- The letters without a sign at their front. -/
def withoutSign : List Char → List Char
  | '+' :: rest => rest
  | '-' :: rest => rest
  | letters => letters

/-- Whether the letters are one or more decimal digits. -/
def isDigits (letters : List Char) : Bool :=
  !letters.isEmpty && letters.all Char.isDigit

/-- Whether the letters are nothing or an exponent. -/
def isExponent : List Char → Bool
  | [] => true
  | mark :: rest => (mark == 'e' || mark == 'E') && isDigits (withoutSign rest)

/-- Whether the letters are digits with an optional point and an optional exponent. -/
def isDecimal (letters : List Char) : Bool :=
  let whole := letters.takeWhile Char.isDigit
  match letters.dropWhile Char.isDigit with
  | '.' :: rest =>
    !(whole.isEmpty && (rest.takeWhile Char.isDigit).isEmpty) &&
      isExponent (rest.dropWhile Char.isDigit)
  | rest => !whole.isEmpty && isExponent rest

/-- Whether the letters are a numeric literal. -/
def isLiteral (letters : List Char) : Bool :=
  let unsigned := withoutSign letters
  let folded := unsigned.map Char.toLower
  folded == "inf".toList || folded == "infinity".toList || folded == "nan".toList ||
    isDecimal unsigned

end SchemaFerry.Number
