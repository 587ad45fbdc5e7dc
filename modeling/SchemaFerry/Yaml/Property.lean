/-
**Tokens of a YAML text, and its anchors, tags and directives.**

The tokens, and readers for the marks that stand before a node or a document: the name of an anchor or an alias, a
tag with its handle and suffix, and the directives for the version and for tag handles. `none` means
that the text is no YAML.
-/

import SchemaFerry.Text.Utf8
import SchemaFerry.Yaml.Cursor

namespace SchemaFerry.Yaml

/-! ### Tokens -/

/-- How a scalar is written. -/
inductive Style where
  | plain
  | singleQuoted
  | doubleQuoted
  | literal
  | folded
  deriving Repr, DecidableEq

/-- A token: a mark of structure, a property of a node, or a scalar with its text. -/
inductive Token where
  | streamEnd
  | versionDirective (major minor : Nat)
  | tagDirective (handle lead : String)
  | documentStart
  | documentEnd
  | blockSequenceStart
  | blockMappingStart
  | blockEnd
  | flowSequenceStart
  | flowSequenceEnd
  | flowMappingStart
  | flowMappingEnd
  | blockEntry
  | flowEntry
  | key
  | value
  | alias (name : String)
  | anchor (name : String)
  | tag (handle suffix : String)
  | scalar (text : String) (style : Style)
  deriving Repr, DecidableEq

/-! ### Anchors -/

/-- Whether the name of an anchor may end before the text here. -/
def endsAnchor (cursor : Cursor) : Bool :=
  cursor.endsAt 0 || cursor.rest.head?.any fun letter => "?:,]\x7d%@\x60".toList.contains letter

/-- The name of an anchor or an alias, from the place after its indicator. -/
def readAnchor (cursor : Cursor) : Option (String × Cursor) :=
  let (name, after) := cursor.takeWhile isWordLetter
  if name.isEmpty || !endsAnchor after then none else some (String.ofList name, after)

/-! ### Tags

A tag is a text of octets: an escaped octet stands in it as the character of that code, whatever
character it is a part of. A tag ends before its first octet zero. -/

/-- The count of octets of a character in UTF-8, by its first octet. -/
def octetCount? (first : Nat) : Option Nat :=
  if first < 0x80 then some 1
  else if 0xC0 ≤ first ∧ first < 0xE0 then some 2
  else if 0xE0 ≤ first ∧ first < 0xF0 then some 3
  else if 0xF0 ≤ first ∧ first < 0xF8 then some 4
  else none

/-- The value of one escaped octet. -/
def readOctet (cursor : Cursor) : Option (Nat × Cursor) :=
  match cursor.rest with
  | '%' :: high :: low :: _ => do
    let upper ← Text.hexValue? high
    let lower ← Text.hexValue? low
    return (16 * upper + lower, cursor.skip 3)
  | _ => none

/-- The further escaped octets of a character. -/
def readFurtherOctets : Nat → Cursor → Option (List Nat × Cursor)
  | 0, cursor => some ([], cursor)
  | count + 1, cursor => do
    let (octet, next) ← readOctet cursor
    if octet < 0x80 ∨ 0xC0 ≤ octet then none
    let (octets, after) ← readFurtherOctets count next
    return (octet :: octets, after)

/-- The escaped octets of a character of a tag. -/
def readEscapedLetter (cursor : Cursor) : Option (List Char × Cursor) := do
  let (first, next) ← readOctet cursor
  let (octets, after) ← readFurtherOctets ((← octetCount? first) - 1) next
  return ((first :: octets).map Char.ofNat, after)

/-- The octets of a tag before the first zero. -/
def cutAtZero (letters : List Char) : List Char :=
  letters.takeWhile (· != '\x00')

/-- Whether a character may stand in the suffix of a tag. -/
def isTagLetter (verbatim : Bool) (letter : Char) : Bool :=
  isWordLetter letter || ";/?:@&=+$.%!~*'()".toList.contains letter ||
    (verbatim && ",[]".toList.contains letter)

/-- The octets of the suffix of a tag. -/
def readTagLetters (verbatim : Bool) : Nat → Cursor → Option (List Char × Cursor)
  | 0, cursor => some ([], cursor)
  | steps + 1, cursor =>
    match cursor.rest with
    | [] => some ([], cursor)
    | letter :: _ =>
      if !isTagLetter verbatim letter then some ([], cursor)
      else do
        let (read, next) ←
          if letter == '%' then readEscapedLetter cursor else some ([letter], cursor.skip 1)
        let (letters, after) ← readTagLetters verbatim steps next
        return (read ++ letters, after)

/-- The handle of a tag: an exclamation mark, word letters and perhaps another mark. -/
def readHandle (cursor : Cursor) : Option (List Char × Cursor) :=
  if !cursor.at? '!' then none
  else
    let (word, after) := (cursor.skip 1).takeWhile isWordLetter
    if after.at? '!' then some ('!' :: word ++ ['!'], after.skip 1) else some ('!' :: word, after)

/-- Whether a handle is closed by a second mark. -/
def isClosedHandle (handle : List Char) : Bool :=
  1 < handle.length && handle.getLast? == some '!'

/-- The handle and the suffix of a tag, from its first mark. -/
def readTagParts (cursor : Cursor) : Option (List Char × List Char × Cursor) :=
  if cursor.peek 1 == some '<' then do
    let (suffix, after) ← readTagLetters true cursor.rest.length (cursor.skip 2)
    if suffix.isEmpty || !after.at? '>' then none
    return ([], cutAtZero suffix, after.skip 1)
  else do
    let (handle, afterHandle) ← readHandle cursor
    let (letters, after) ← readTagLetters false cursor.rest.length afterHandle
    if isClosedHandle handle then
      if letters.isEmpty then none else return (handle, cutAtZero letters, after)
    else
      let suffix := cutAtZero (handle.drop 1 ++ letters)
      return if suffix.isEmpty then ([], ['!'], after) else (['!'], suffix, after)

/-- A tag, which a blank must follow, or a comma between brackets. -/
def readTag (inFlow : Bool) (cursor : Cursor) : Option (Token × Cursor) := do
  let (handle, suffix, after) ← readTagParts cursor
  if !after.endsAt 0 && !(inFlow && after.at? ',') then none
  return (.tag (String.ofList handle) (String.ofList suffix), after)

/-! ### Directives -/

/-- A part of a version number, of at most nine digits. -/
def readVersionPart (cursor : Cursor) : Option (Nat × Cursor) :=
  let (digits, after) := cursor.takeWhile Char.isDigit
  if digits.isEmpty || 9 < digits.length then none
  else some (digits.foldl (fun value digit => 10 * value + (digit.toNat - 48)) 0, after)

/-- The value of a directive for the version. -/
def readVersion (cursor : Cursor) : Option (Token × Cursor) := do
  let (major, afterMajor) ← readVersionPart (cursor.skipWhile isSpace)
  if !afterMajor.at? '.' then none
  let (minor, after) ← readVersionPart (afterMajor.skip 1)
  return (.versionDirective major minor, after)

/-- The value of a directive for a tag handle. -/
def readTagDirective (cursor : Cursor) : Option (Token × Cursor) := do
  let (handle, afterHandle) ← readHandle (cursor.skipWhile isSpace)
  if !isClosedHandle handle && handle.length != 1 then none
  if !afterHandle.rest.head?.any isSpace then none
  let lead := afterHandle.skipWhile isSpace
  let (letters, after) ← readTagLetters true lead.rest.length lead
  if letters.isEmpty || !after.endsAt 0 then none
  return (.tagDirective (String.ofList handle) (String.ofList (cutAtZero letters)), after)

/-- A directive, from its percent sign to the start of the next line. -/
def readDirective (cursor : Cursor) : Option (Token × Cursor) := do
  let (name, afterName) := (cursor.skip 1).takeWhile isWordLetter
  if name.isEmpty || !afterName.endsAt 0 then none
  let (token, after) ←
    match String.ofList name with
    | "YAML" => readVersion afterName
    | "TAG" => readTagDirective afterName
    | _ => none
  let lineEnd := (after.skipWhile isSpace).skipComment
  if !lineEnd.atLineEnd then none
  return (token, lineEnd.takeBreak.2)

end SchemaFerry.Yaml
