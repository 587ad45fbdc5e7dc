/-
**Scalars of a YAML text.**

Each reader starts at the first character of a scalar and gives its text and the place after it. A
line break inside a plain or quoted scalar is folded: one break is a blank, and of several the first
is dropped. A block scalar keeps its lines (`literal`) or folds them (`folded`) and ends as its
header says. `none` means that the text is no YAML.
-/

import SchemaFerry.Text.Utf8
import SchemaFerry.Yaml.Cursor

namespace SchemaFerry.Yaml

/-! ### Gaps between words -/

/-- Blanks and breaks between two words of a scalar. -/
structure Gap where
  broken : Bool
  blanks : List Char
  firstBreak : List Char
  otherBreaks : List Char
  deriving Repr

/-- What a gap contributes to the text of a scalar. -/
def Gap.text (gap : Gap) : List Char :=
  if gap.broken then
    if gap.firstBreak == ['\n'] then
      if gap.otherBreaks.isEmpty then [' '] else gap.otherBreaks
    else gap.firstBreak ++ gap.otherBreaks
  else gap.blanks

/-- Reads on through a gap. A tab before the given column of a new line is refused. -/
def readGap (indent : Nat) : Nat → Gap → Cursor → Option (Gap × Cursor)
  | 0, gap, cursor => some (gap, cursor)
  | steps + 1, gap, cursor =>
    match cursor.rest with
    | [] => some (gap, cursor)
    | letter :: _ =>
      if isSpace letter then
        if gap.broken then
          if letter == '\t' && cursor.column < indent then none
          else readGap indent steps gap (cursor.skip 1)
        else readGap indent steps { gap with blanks := gap.blanks ++ [letter] } (cursor.skip 1)
      else if isBreak letter then
        let (read, next) := cursor.takeBreak
        if gap.broken then
          readGap indent steps { gap with otherBreaks := gap.otherBreaks ++ read } next
        else readGap indent steps { gap with broken := true, blanks := [], firstBreak := read } next
      else some (gap, cursor)

/-! ### Plain scalars -/

/-- Whether a plain scalar ends before the character here. -/
def endsPlain (inFlow : Bool) (cursor : Cursor) (letter : Char) : Bool :=
  (letter == ':' && cursor.endsAt 1) ||
    (inFlow && (letter == ',' || letter == '[' || letter == ']' || letter == '\x7b' ||
      letter == '\x7d'))

/-- Whether the colon here may not stand in a plain scalar. -/
def isMisplacedColon (inFlow : Bool) (cursor : Cursor) (letter : Char) : Bool :=
  inFlow && letter == ':' &&
    match cursor.peek 1 with
    | some next =>
      next == ',' || next == '?' || next == '[' || next == ']' || next == '\x7b' || next == '\x7d'
    | none => false

/-- The letters of a plain scalar up to a blank, a break or its end. -/
def readPlainWord (inFlow : Bool) : Nat → Cursor → Option (List Char × Cursor)
  | 0, cursor => some ([], cursor)
  | steps + 1, cursor =>
    match cursor.rest with
    | [] => some ([], cursor)
    | letter :: _ =>
      if isSpace letter || isBreak letter then some ([], cursor)
      else if isMisplacedColon inFlow cursor letter then none
      else if endsPlain inFlow cursor letter then some ([], cursor)
      else do
        let (word, after) ← readPlainWord inFlow steps (cursor.skip 1)
        return (letter :: word, after)

/-- A plain scalar whose lines after the first start at the given column. The truth value says
whether a line break was passed after the last word. -/
def readPlain (inFlow : Bool) (indent : Nat) :
    Nat → List Char → Gap → Cursor → Option (List Char × Bool × Cursor)
  | 0, text, gap, cursor => some (text, gap.broken, cursor)
  | steps + 1, text, gap, cursor => do
    if cursor.atDocumentMark || cursor.at? '#' then return (text, gap.broken, cursor)
    let (word, afterWord) ← readPlainWord inFlow cursor.rest.length cursor
    let (text, gap) : List Char × Gap :=
      if word.isEmpty then (text, gap) else (text ++ gap.text ++ word, ⟨false, [], [], []⟩)
    if afterWord.rest.isEmpty || !afterWord.endsAt 0 then return (text, gap.broken, afterWord)
    let (gap, next) ← readGap indent afterWord.rest.length gap afterWord
    if !inFlow && next.column < indent then return (text, gap.broken, next)
    readPlain inFlow indent steps text gap next

/-! ### Quoted scalars -/

/-- The value of hexadecimal digits. -/
def hexNumber? (digits : List Char) : Option Nat :=
  digits.foldlM (fun value digit => (Text.hexValue? digit).map (16 * value + ·)) 0

/-- The character of an escape by number. -/
def numbered? (cursor : Cursor) (count : Nat) : Option (Char × Cursor) := do
  let digits := cursor.rest.take count
  if digits.length < count then none
  let code ← hexNumber? digits
  if (0xD800 ≤ code ∧ code ≤ 0xDFFF) ∨ 0x10FFFF < code then none
  return (Char.ofNat code, cursor.skip count)

/-- The character of an escape, given the place after the backslash. -/
def readEscape? (cursor : Cursor) : Option (Char × Cursor) := do
  let mark ← cursor.peek 0
  let after := cursor.skip 1
  match mark with
  | '0' => return (Char.ofNat 0, after)
  | 'a' => return (Char.ofNat 7, after)
  | 'b' => return (Char.ofNat 8, after)
  | 't' => return ('\t', after)
  | '\t' => return ('\t', after)
  | 'n' => return ('\n', after)
  | 'v' => return (Char.ofNat 11, after)
  | 'f' => return (Char.ofNat 12, after)
  | 'r' => return ('\r', after)
  | 'e' => return (Char.ofNat 27, after)
  | ' ' => return (' ', after)
  | '"' => return ('"', after)
  | '/' => return ('/', after)
  | '\\' => return ('\\', after)
  | 'N' => return (Char.ofNat 0x85, after)
  | '_' => return (Char.ofNat 0xA0, after)
  | 'L' => return (Char.ofNat 0x2028, after)
  | 'P' => return (Char.ofNat 0x2029, after)
  | 'x' => numbered? after 2
  | 'u' => numbered? after 4
  | 'U' => numbered? after 8
  | _ => none

/-- The letters of a quoted scalar up to a blank, a break or its closing quote. The truth value says
whether an escaped line break ended them. -/
def readQuotedWord (single : Bool) : Nat → Cursor → Option (List Char × Bool × Cursor)
  | 0, cursor => some ([], false, cursor)
  | steps + 1, cursor =>
    match cursor.rest with
    | [] => some ([], false, cursor)
    | letter :: rest =>
      if isSpace letter || isBreak letter then some ([], false, cursor)
      else if single && letter == '\'' && rest.head? == some '\'' then do
        let (word, escaped, after) ← readQuotedWord single steps (cursor.skip 2)
        return ('\'' :: word, escaped, after)
      else if letter == (if single then '\'' else '"') then some ([], false, cursor)
      else if !single && letter == '\\' then
        if rest.head?.any isBreak then some ([], true, (cursor.skip 1).takeBreak.2)
        else do
          let (meant, next) ← readEscape? (cursor.skip 1)
          let (word, escaped, after) ← readQuotedWord single steps next
          return (meant :: word, escaped, after)
      else do
        let (word, escaped, after) ← readQuotedWord single steps (cursor.skip 1)
        return (letter :: word, escaped, after)

/-- A quoted scalar, from the place after its opening quote. -/
def readQuoted (single : Bool) : Nat → List Char → Cursor → Option (List Char × Cursor)
  | 0, _, _ => none
  | steps + 1, text, cursor => do
    if cursor.atDocumentMark || cursor.rest.isEmpty then none
    let (word, escaped, afterWord) ← readQuotedWord single cursor.rest.length cursor
    let text := text ++ word
    if afterWord.at? (if single then '\'' else '"') then return (text, afterWord.skip 1)
    let (gap, next) ← readGap 0 afterWord.rest.length ⟨escaped, [], [], []⟩ afterWord
    readQuoted single steps (text ++ gap.text) next

/-! ### Block scalars -/

/-- What a block scalar does with the breaks at its end. -/
inductive Chomping where
  | strip
  | clip
  | keep
  deriving Repr, DecidableEq

/-- The chomping mark here. -/
def readChomping (cursor : Cursor) : Option Chomping × Cursor :=
  if cursor.at? '+' then (some .keep, cursor.skip 1)
  else if cursor.at? '-' then (some .strip, cursor.skip 1)
  else (none, cursor)

/-- The indentation mark here, which may not be zero. -/
def readIndentMark (cursor : Cursor) : Option (Nat × Cursor) :=
  match cursor.rest with
  | letter :: _ =>
    if letter.isDigit then
      if letter == '0' then none else some (letter.toNat - 48, cursor.skip 1)
    else some (0, cursor)
  | [] => some (0, cursor)

/-- The header of a block scalar: chomping and indentation marks in either order. -/
def readHeader (cursor : Cursor) : Option (Chomping × Nat × Cursor) := do
  let (first, afterFirst) := readChomping cursor
  let (indent, afterIndent) ← readIndentMark afterFirst
  match first with
  | some chomping => return (chomping, indent, afterIndent)
  | none =>
    if indent = 0 then return (.clip, 0, afterIndent)
    let (second, afterSecond) := readChomping afterIndent
    return (second.getD .clip, indent, afterSecond)

/-- Empty lines before the content of a block scalar: the breaks, the greatest indentation seen and
the place after them. An indentation of zero is not known yet. -/
def readEmptyLines (indent : Nat) :
    Nat → Nat → List Char → Cursor → Option (List Char × Nat × Cursor)
  | 0, deepest, breaks, cursor => some (breaks, deepest, cursor)
  | steps + 1, deepest, breaks, cursor =>
    let spaces := (cursor.rest.takeWhile (· == ' ')).length
    let after := cursor.skip (if indent = 0 then spaces else min spaces (indent - cursor.column))
    let deepest := max deepest after.column
    if (indent = 0 || after.column < indent) && after.at? '\t' then none
    else if after.rest.head?.any isBreak then
      let (read, next) := after.takeBreak
      readEmptyLines indent steps deepest (breaks ++ read) next
    else some (breaks, deepest, after)

/-- The lines of a block scalar. The state is the text so far, the break after the last line, the
breaks of the empty lines after it, and whether that line started with a blank. -/
def readBlockLines (literal : Bool) (indent : Nat) :
    Nat → List Char → List Char → List Char → Bool → Cursor →
      Option (List Char × List Char × List Char × Cursor)
  | 0, text, lastBreak, emptyLines, _, cursor => some (text, lastBreak, emptyLines, cursor)
  | steps + 1, text, lastBreak, emptyLines, afterBlank, cursor =>
    if cursor.column != indent || cursor.rest.isEmpty then
      some (text, lastBreak, emptyLines, cursor)
    else do
      let blank := cursor.rest.head?.any isSpace
      let joint :=
        if !literal && lastBreak == ['\n'] && !afterBlank && !blank then
          if emptyLines.isEmpty then [' '] else []
        else lastBreak
      let (line, afterLine) := cursor.takeWhile fun letter => !isBreak letter
      let (read, next) := afterLine.takeBreak
      let (breaks, _, content) ← readEmptyLines indent next.rest.length 0 [] next
      readBlockLines literal indent steps (text ++ joint ++ emptyLines ++ line) read breaks blank
        content

/-- A block scalar, from the place after its indicator; `parent` is the indentation around it. -/
def readBlock (literal : Bool) (parent : Int) (cursor : Cursor) :
    Option (List Char × Cursor) := do
  let (chomping, increment, afterHeader) ← readHeader cursor
  let lineEnd := (afterHeader.skipWhile isSpace).skipComment
  if !lineEnd.atLineEnd then none
  let firstLine := lineEnd.takeBreak.2
  let declared := if increment = 0 then 0 else (max parent 0).toNat + increment
  let (breaks, deepest, content) ←
    readEmptyLines declared (firstLine.rest.length + 1) 0 [] firstLine
  let indent := if declared = 0 then max deepest (max (parent + 1).toNat 1) else declared
  let (text, lastBreak, emptyLines, after) ←
    readBlockLines literal indent (content.rest.length + 1) [] [] breaks false content
  return (match chomping with
    | .strip => text
    | .clip => text ++ lastBreak
    | .keep => text ++ lastBreak ++ emptyLines, after)

end SchemaFerry.Yaml
