/-
**Reading JSON texts.**

`parse?` reads a text that holds one value and blanks around it. Objects are put in the order of
their keys, the last value of a repeated key counts. Values may be nested 127 levels deep.
-/

import SchemaFerry.Json.Number
import SchemaFerry.Keyed
import SchemaFerry.Text.Utf8

namespace SchemaFerry.Json

/-- The letters from the first one that is not a blank of JSON. -/
def skipBlanks (letters : List Char) : List Char :=
  letters.dropWhile fun letter =>
    letter == ' ' || letter == '\n' || letter == '\t' || letter == '\r'

/-- The value of four hexadecimal digits and what follows them. -/
def readFourDigits? : List Char → Option (Nat × List Char)
  | first :: second :: third :: fourth :: rest => do
    let a ← Text.hexValue? first
    let b ← Text.hexValue? second
    let c ← Text.hexValue? third
    let d ← Text.hexValue? fourth
    return (((a * 16 + b) * 16 + c) * 16 + d, rest)
  | _ => none

/-- The character of an escape by number; a character above `U+FFFF` takes two of them. -/
def readEscapedUnit? (letters : List Char) : Option (Char × List Char) := do
  let (unit, rest) ← readFourDigits? letters
  if 0xDC00 ≤ unit ∧ unit ≤ 0xDFFF then none
  if 0xD800 ≤ unit ∧ unit ≤ 0xDBFF then
    match rest with
    | '\\' :: 'u' :: tail => do
      let (second, after) ← readFourDigits? tail
      if 0xDC00 ≤ second ∧ second ≤ 0xDFFF then
        return (Char.ofNat (0x10000 + (unit - 0xD800) * 0x400 + (second - 0xDC00)), after)
      else none
    | _ => none
  else return (Char.ofNat unit, rest)

/-- The letters of a text up to its closing quote, and what follows; the count of steps bounds the
length of the text. -/
def readText? : Nat → List Char → Option (List Char × List Char)
  | 0, _ => none
  | _, [] => none
  | steps + 1, letter :: rest =>
    if letter == '"' then some ([], rest)
    else if letter == '\\' then
      match rest with
      | [] => none
      | mark :: after => do
        let (meant, tail) ←
          match mark with
          | '"' => some ('"', after)
          | '\\' => some ('\\', after)
          | '/' => some ('/', after)
          | 'b' => some (Char.ofNat 8, after)
          | 'f' => some (Char.ofNat 12, after)
          | 'n' => some ('\n', after)
          | 'r' => some ('\r', after)
          | 't' => some ('\t', after)
          | 'u' => readEscapedUnit? after
          | _ => none
        let (letters, remaining) ← readText? steps tail
        return (meant :: letters, remaining)
    else if letter.toNat < 0x20 then none
    else do
      let (letters, remaining) ← readText? steps rest
      return (letter :: letters, remaining)

/-- Removes a word from the front. -/
def readWord? (word : String) (value : Json) (letters : List Char) : Option (Json × List Char) :=
  (word.toList.isPrefixOf? letters).map fun rest => (value, rest)

mutual

/-- A value and what follows it; the first count bounds the steps, the second the levels. -/
def readValue? : Nat → Nat → List Char → Option (Json × List Char)
  | 0, _, _ => none
  | steps + 1, levels, letters =>
    match skipBlanks letters with
    | [] => none
    | letter :: rest =>
      if letter == '"' then
        (readText? (rest.length + 1) rest).map fun (text, after) =>
          (string (String.ofList text), after)
      else if letter == '[' then
        if levels ≤ 1 then none
        else
          match skipBlanks rest with
          | ']' :: after => some (array [], after)
          | _ => (readItems? steps (levels - 1) rest).map fun (items, after) => (array items, after)
      else if letter == '\x7b' then
        if levels ≤ 1 then none
        else
          match skipBlanks rest with
          | '\x7d' :: after => some (object [], after)
          | _ =>
            (readMembers? steps (levels - 1) [] rest).map fun (members, after) =>
              (object members, after)
      else if letter == 't' then readWord? "true" (bool true) (letter :: rest)
      else if letter == 'f' then readWord? "false" (bool false) (letter :: rest)
      else if letter == 'n' then readWord? "null" null (letter :: rest)
      else do
        let (number, after) ← NumberText.read? (letter :: rest)
        let value ← number.toJson?
        return (value, after)

/-- The items of an array up to its closing bracket. -/
def readItems? : Nat → Nat → List Char → Option (List Json × List Char)
  | 0, _, _ => none
  | steps + 1, levels, letters => do
    let (item, after) ← readValue? steps levels letters
    match skipBlanks after with
    | ',' :: rest => do
      let (items, remaining) ← readItems? steps levels rest
      return (item :: items, remaining)
    | ']' :: rest => return ([item], rest)
    | _ => none

/-- The members of an object up to its closing brace, added to those already read. -/
def readMembers? : Nat → Nat → List (String × Json) → List Char →
    Option (List (String × Json) × List Char)
  | 0, _, _, _ => none
  | steps + 1, levels, members, letters =>
    match skipBlanks letters with
    | '"' :: rest => do
      let (key, afterKey) ← readText? (rest.length + 1) rest
      match skipBlanks afterKey with
      | ':' :: afterColon => do
        let (value, after) ← readValue? steps levels afterColon
        let extended := Keyed.insert (String.ofList key) value members
        match skipBlanks after with
        | ',' :: tail => readMembers? steps levels extended tail
        | '\x7d' :: tail => return (extended, tail)
        | _ => none
      | _ => none
    | _ => none

end

/-- Reads a text that holds one value. -/
def parse? (text : String) : Option Json := do
  let letters := text.toList
  let (value, rest) ← readValue? (2 * letters.length + 2) 128 letters
  if (skipBlanks rest).isEmpty then return value else none

end SchemaFerry.Json
