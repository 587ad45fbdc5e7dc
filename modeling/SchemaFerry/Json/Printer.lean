/-
**JSON texts.**

`compact` writes a value without blanks, `pretty` with one member or item a line, indented by two
blanks a level. In a text only the quote, the backslash and the control characters are escaped.
A floating point number is written as the shortest decimal that reads back: with a point up to
sixteen digits before it and four zeros after it, else with a signed exponent; what is no number or
infinite is `null`.
-/

import SchemaFerry.Json.Basic
import SchemaFerry.Number.Shortest
import SchemaFerry.Text.Utf8

namespace SchemaFerry.Json

open SchemaFerry.Number

/-- One character of a text. -/
def escapeLetter (letter : Char) : List Char :=
  match letter with
  | '"' => ['\\', '"']
  | '\\' => ['\\', '\\']
  | '\n' => ['\\', 'n']
  | '\r' => ['\\', 'r']
  | '\t' => ['\\', 't']
  | _ =>
    if letter.toNat = 8 then ['\\', 'b']
    else if letter.toNat = 12 then ['\\', 'f']
    else if letter.toNat < 0x20 then '\\' :: 'u' :: (Text.hexPadded 4 letter.toNat).toList
    else [letter]

/-- A text in quotes. -/
def quoteText (text : String) : String :=
  String.ofList ('"' :: (text.toList.flatMap escapeLetter ++ ['"']))

/-- A decimal with a point where that takes few zeros, else with an exponent. -/
def decimalText (decimal : Decimal) : String :=
  let digits := Nat.toDigits 10 decimal.digits
  let count : Int := digits.length
  let point := count + decimal.exponent
  if 0 ≤ decimal.exponent ∧ point ≤ 16 then
    String.ofList (digits ++ List.replicate decimal.exponent.toNat '0') ++ ".0"
  else if 0 < point ∧ point ≤ 16 then
    String.ofList (digits.take point.toNat ++ '.' :: digits.drop point.toNat)
  else if -5 < point ∧ point ≤ 0 then
    "0." ++ String.ofList (List.replicate (-point).toNat '0' ++ digits)
  else
    let power := point - 1
    let mark := if power < 0 then "e-" else "e+"
    let fraction := digits.drop 1
    String.ofList (digits.take 1 ++ if fraction.isEmpty then [] else '.' :: fraction) ++
      mark ++ toString power.natAbs

/-- A floating point number. -/
def floatText (bits : UInt64) : String :=
  match Binary64.ofBits bits with
  | .finite negative mantissa exponent =>
    (if negative then "-" else "") ++
      if mantissa = 0 then "0.0" else decimalText (shortest mantissa exponent)
  | _ => "null"

mutual

/-- The value without blanks. -/
def compact : Json → String
  | null => "null"
  | bool value => if value then "true" else "false"
  | int value => toString value
  | float bits => floatText bits
  | string text => quoteText text
  | array items => "[" ++ ",".intercalate (compactItems items) ++ "]"
  | object members => "\x7b" ++ ",".intercalate (compactMembers members) ++ "\x7d"

/-- The items of an array without blanks. -/
def compactItems : List Json → List String
  | [] => []
  | item :: rest => compact item :: compactItems rest

/-- The members of an object without blanks. -/
def compactMembers : List (String × Json) → List String
  | [] => []
  | (key, value) :: rest => (quoteText key ++ ":" ++ compact value) :: compactMembers rest

end

/-- Items between brackets, one a line. -/
def bracketed (depth : Nat) (opening closing : String) (items : List String) : String :=
  if items.isEmpty then opening ++ closing
  else
    let indent := fun level : Nat => "\n" ++ String.ofList (List.replicate (2 * level) ' ')
    opening ++ indent (depth + 1) ++ ("," ++ indent (depth + 1)).intercalate items ++
      indent depth ++ closing

mutual

/-- The value at a level of indentation. -/
def prettyAt (depth : Nat) : Json → String
  | null => "null"
  | bool value => if value then "true" else "false"
  | int value => toString value
  | float bits => floatText bits
  | string text => quoteText text
  | array items => bracketed depth "[" "]" (prettyItems (depth + 1) items)
  | object members => bracketed depth "\x7b" "\x7d" (prettyMembers (depth + 1) members)

/-- The items of an array at a level of indentation. -/
def prettyItems (depth : Nat) : List Json → List String
  | [] => []
  | item :: rest => prettyAt depth item :: prettyItems depth rest

/-- The members of an object at a level of indentation. -/
def prettyMembers (depth : Nat) : List (String × Json) → List String
  | [] => []
  | (key, value) :: rest =>
    (quoteText key ++ ": " ++ prettyAt depth value) :: prettyMembers depth rest

end

/-- The value with one member or item a line. -/
def pretty (value : Json) : String :=
  prettyAt 0 value

end SchemaFerry.Json
