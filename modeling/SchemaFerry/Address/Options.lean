/-
**Addresses as options.**

An address as a list of `key=value` with blanks between. A value stands in quotes or ends at a
blank; a backslash makes the next character stand for itself. The list ends where no key follows.
-/

import SchemaFerry.Address.Basic
import SchemaFerry.Text.Blank

namespace SchemaFerry.Address

open SchemaFerry.Text

/-- A value without quotes, and what follows it. -/
def readBareValue : List Char → List Char × List Char
  | [] => ([], [])
  | '\\' :: [] => ([], [])
  | '\\' :: letter :: rest =>
    let (value, after) := readBareValue rest
    (letter :: value, after)
  | letter :: rest =>
    if isBlank letter then ([], letter :: rest)
    else
      let (value, after) := readBareValue rest
      (letter :: value, after)

/-- A value up to its closing quote, and what follows that. -/
def readQuotedValue : List Char → Option (List Char × List Char)
  | [] => none
  | '\'' :: rest => some ([], rest)
  | '\\' :: [] => none
  | '\\' :: letter :: rest =>
    (readQuotedValue rest).map fun (value, after) => (letter :: value, after)
  | letter :: rest => (readQuotedValue rest).map fun (value, after) => (letter :: value, after)

/-- A value, which must not be empty unless it is in quotes. -/
def readValue : List Char → Option (List Char × List Char)
  | '\'' :: rest => readQuotedValue rest
  | letters =>
    let (value, after) := readBareValue letters
    if value.isEmpty then none else some (value, after)

/-- Whether a character may stand in a key. -/
def isKeyLetter (letter : Char) : Bool :=
  !isBlank letter && letter != '='

/-- The options of an address, given a bound on their number. -/
def readOptions : Nat → List Char → SourceAddress → Option SourceAddress
  | 0, _, address => some address
  | steps + 1, letters, address => do
    let start := trimStart letters
    let key := start.takeWhile isKeyLetter
    if key.isEmpty then return address
    let afterMark ← afterMark? '=' (trimStart (start.dropWhile isKeyLetter))
    let (value, rest) ← readValue (trimStart afterMark)
    readOptions steps rest (← address.withOption (String.ofList key) (String.ofList value))

end SchemaFerry.Address
