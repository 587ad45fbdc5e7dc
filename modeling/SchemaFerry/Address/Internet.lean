/-
**Internet addresses.**

Whether a text is an address of four decimal numbers, or of eight hexadecimal ones, of which a run
of zeros may be left out once and the last two may be written as four decimal numbers.
-/

import SchemaFerry.Number.Whole

namespace SchemaFerry.Address

/-- Reads one of four decimal numbers: up to 255, without a zero at the front. -/
def afterOctet? (letters : List Char) : Option (List Char) :=
  let digits := letters.takeWhile Char.isDigit
  match Number.natural? 10 255 digits with
  | some _ =>
    if 3 < digits.length || (digits.head? == some '0' && digits.length != 1) then none
    else some (letters.dropWhile Char.isDigit)
  | none => none

/-- Reads a mark. -/
def afterMark? (mark : Char) : List Char → Option (List Char)
  | letter :: rest => if letter == mark then some rest else none
  | [] => none

/-- Reads four decimal numbers. -/
def afterFour? (letters : List Char) : Option (List Char) := do
  let second ← afterMark? '.' (← afterOctet? letters)
  let third ← afterMark? '.' (← afterOctet? second)
  afterOctet? (← afterMark? '.' (← afterOctet? third))

/-- Reads a hexadecimal number of at most four digits. -/
def afterGroup? (letters : List Char) : Option (List Char) :=
  let isHex := fun letter => (Text.hexValue? letter).isSome
  let digits := letters.takeWhile isHex
  if digits.isEmpty || 4 < digits.length then none else some (letters.dropWhile isHex)

/-- Reads groups between colons, at most as many as there is room for. Gives the count of groups,
whether the last of them were written as decimal numbers, and what follows. -/
def readGroups : Nat → Nat → List Char → Nat × Bool × List Char
  | 0, count, letters => (count, false, letters)
  | room + 1, count, letters =>
    let inner := if count = 0 then some letters else afterMark? ':' letters
    match inner with
    | none => (count, false, letters)
    | some start =>
      match if room = 0 then none else afterFour? start with
      | some after => (count + 2, true, after)
      | none =>
        match afterGroup? start with
        | some after => readGroups room (count + 1) after
        | none => (count, false, letters)

/-- Whether letters are an address of hexadecimal numbers. -/
def isLongAddress (letters : List Char) : Bool :=
  let (count, decimal, rest) := readGroups 8 0 letters
  if count = 8 then rest.isEmpty
  else
    match rest with
    | ':' :: ':' :: tail => !decimal && (readGroups (7 - count) 0 tail).2.2.isEmpty
    | _ => false

/-- Whether letters are an internet address. -/
def isInternetAddress (letters : List Char) : Bool :=
  (match afterFour? letters with
    | some rest => rest.isEmpty
    | none => false) || isLongAddress letters

end SchemaFerry.Address
