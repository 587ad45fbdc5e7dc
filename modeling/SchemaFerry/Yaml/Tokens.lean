/-
**The tokens of a YAML text.**

`tokens?` cuts a text into tokens. Indentation becomes tokens of its own: a line that goes deeper
starts a block, one that goes less deep ends blocks. A scalar may turn out to be a key when its
colon is read; the place of such a candidate is remembered, one for each level of brackets, and its
key mark is put before it. A candidate must be on the line of its colon and at most 1024 octets
before it.
-/

import SchemaFerry.Yaml.Property
import SchemaFerry.Yaml.Scalar

namespace SchemaFerry.Yaml

/-- A token that may turn out to be the start of a key. -/
structure KeyCandidate where
  isRequired : Bool
  position : Nat
  index : Nat
  line : Nat
  column : Nat
  deriving Repr

/-- How far a text has been cut: the tokens so far, the last first, the indentation of the open
blocks, the innermost first, and the candidates for keys, one for each level of brackets. -/
structure Scan where
  cursor : Cursor
  emitted : List Token
  count : Nat
  indent : Int
  outerIndents : List Int
  keyAllowed : Bool
  candidate : Option KeyCandidate
  outerCandidates : List (Option KeyCandidate)
  deriving Repr

namespace Scan

/-- The start of a text. -/
def start (letters : List Char) : Scan :=
  ⟨Cursor.start letters, [], 0, -1, [], true, none, []⟩

/-- Whether the place is between brackets. -/
def inFlow (scan : Scan) : Bool :=
  !scan.outerCandidates.isEmpty

/-- One more token. -/
def emit (scan : Scan) (token : Token) : Scan :=
  { scan with emitted := token :: scan.emitted, count := scan.count + 1 }

/-- One more token, put before those from a position on. -/
def emitAt (scan : Scan) (position : Nat) (token : Token) : Scan :=
  { scan with
    emitted := scan.emitted.insertIdx (scan.count - position) token
    count := scan.count + 1 }

/-- Whether the next place may start a key. -/
def allowKey (scan : Scan) (allowed : Bool) : Scan :=
  { scan with keyAllowed := allowed }

/-- Goes on from another place. -/
def moveTo (scan : Scan) (cursor : Cursor) : Scan :=
  { scan with cursor }

/-! ### Candidates for keys -/

/-- Whether a candidate is too far back to be a key. -/
def isStale (cursor : Cursor) (candidate : KeyCandidate) : Bool :=
  candidate.line < cursor.line || candidate.index + 1024 < cursor.index

/-- Drops a candidate that is too far back; one that must be a key is refused. -/
def refreshed (cursor : Cursor) : Option KeyCandidate → Option (Option KeyCandidate)
  | none => some none
  | some candidate =>
    if isStale cursor candidate then
      if candidate.isRequired then none else some none
    else some (some candidate)

/-- Drops the candidates that are too far back. -/
def refresh (scan : Scan) : Option Scan := do
  let candidate ← refreshed scan.cursor scan.candidate
  let outerCandidates ← scan.outerCandidates.mapM (refreshed scan.cursor)
  return { scan with candidate, outerCandidates }

/-- Drops the candidate of this level; one that must be a key is refused. -/
def dropCandidate (scan : Scan) : Option Scan :=
  if scan.candidate.any (·.isRequired) then none else some { scan with candidate := none }

/-- Remembers the place as a candidate, if a key may stand here. -/
def saveCandidate (scan : Scan) : Option Scan := do
  if !scan.keyAllowed then return scan
  let dropped ← scan.dropCandidate
  let cursor := scan.cursor
  let isRequired := !scan.inFlow && scan.indent == (cursor.column : Int)
  return { dropped with
    candidate := some ⟨isRequired, scan.count, cursor.index, cursor.line, cursor.column⟩ }

/-! ### Indentation -/

/-- Opens a block if the column is deeper than the open one. Its token is put at a position, or at
the end. -/
def openBlock (scan : Scan) (column : Nat) (position : Option Nat) (token : Token) : Scan :=
  if !scan.inFlow && scan.indent < (column : Int) then
    let opened := scan.emitAt (position.getD scan.count) token
    { opened with indent := column, outerIndents := scan.indent :: scan.outerIndents }
  else scan

/-- Closes the blocks deeper than a column, given the indentations around the innermost. -/
def closeBlocksWithin (column : Int) : List Int → Scan → Scan
  | [], scan => scan
  | outer :: others, scan =>
    if column < scan.indent then
      closeBlocksWithin column others
        { scan.emit .blockEnd with indent := outer, outerIndents := others }
    else scan

/-- Closes the blocks deeper than a column. -/
def closeBlocks (scan : Scan) (column : Int) : Scan :=
  if scan.inFlow then scan else closeBlocksWithin column scan.outerIndents scan

/-! ### Blanks between tokens -/

/-- Goes to the next token, over blanks, comments and line breaks. -/
def skipBlanks : Nat → Scan → Scan
  | 0, scan => scan
  | steps + 1, scan =>
    let marked :=
      if scan.cursor.column == 0 && scan.cursor.at? (Char.ofNat 0xFEFF) then scan.cursor.skip 1
      else scan.cursor
    let tabs := scan.inFlow || !scan.keyAllowed
    let after :=
      (marked.skipWhile fun letter => letter == ' ' || (tabs && letter == '\t')).skipComment
    if after.rest.head?.any isBreak then
      skipBlanks steps
        ((scan.moveTo after.takeBreak.2).allowKey (scan.keyAllowed || !scan.inFlow))
    else scan.moveTo after

/-! ### Single tokens -/

/-- Takes an indicator of some characters. -/
def take (scan : Scan) (length : Nat) (token : Token) : Scan :=
  (scan.moveTo (scan.cursor.skip length)).emit token

/-- The end of the text. -/
def takeEnd (scan : Scan) : Option Scan := do
  let dropped ← (scan.closeBlocks (-1)).dropCandidate
  return (dropped.allowKey false).emit .streamEnd

/-- A directive. -/
def takeDirective (scan : Scan) : Option Scan := do
  let dropped ← (scan.closeBlocks (-1)).dropCandidate
  let (token, after) ← readDirective scan.cursor
  return ((dropped.allowKey false).moveTo after).emit token

/-- The mark of the start or the end of a document. -/
def takeDocumentMark (scan : Scan) (token : Token) : Option Scan := do
  let dropped ← (scan.closeBlocks (-1)).dropCandidate
  return (dropped.allowKey false).take 3 token

/-- An opening bracket. -/
def takeOpening (scan : Scan) (token : Token) : Option Scan := do
  let saved ← scan.saveCandidate
  let nested :=
    { saved with candidate := none, outerCandidates := saved.candidate :: saved.outerCandidates }
  return (nested.allowKey true).take 1 token

/-- A closing bracket. -/
def takeClosing (scan : Scan) (token : Token) : Option Scan := do
  let dropped ← scan.dropCandidate
  let left :=
    match dropped.outerCandidates with
    | [] => dropped
    | outer :: others => { dropped with candidate := outer, outerCandidates := others }
  return (left.allowKey false).take 1 token

/-- A comma between brackets. -/
def takeFlowEntry (scan : Scan) : Option Scan := do
  let dropped ← scan.dropCandidate
  return (dropped.allowKey true).take 1 .flowEntry

/-- The mark of an item of a block. -/
def takeBlockEntry (scan : Scan) : Option Scan := do
  if !scan.inFlow && !scan.keyAllowed then none
  let dropped ← (scan.openBlock scan.cursor.column none .blockSequenceStart).dropCandidate
  return (dropped.allowKey true).take 1 .blockEntry

/-- The mark of a key. -/
def takeKey (scan : Scan) : Option Scan := do
  if !scan.inFlow && !scan.keyAllowed then none
  let dropped ← (scan.openBlock scan.cursor.column none .blockMappingStart).dropCandidate
  return (dropped.allowKey (!scan.inFlow)).take 1 .key

/-- The mark of a value; a candidate becomes its key. -/
def takeValue (scan : Scan) : Option Scan :=
  match scan.candidate with
  | some candidate =>
    let marked :=
      (scan.emitAt candidate.position .key).openBlock candidate.column (some candidate.position)
        .blockMappingStart
    some (({ marked with candidate := none }.allowKey false).take 1 .value)
  | none =>
    if !scan.inFlow && !scan.keyAllowed then none
    else
      some (((scan.openBlock scan.cursor.column none .blockMappingStart).allowKey
        (!scan.inFlow)).take 1 .value)

/-- An alias or an anchor. -/
def takeAnchor (scan : Scan) (token : String → Token) : Option Scan := do
  let saved ← scan.saveCandidate
  let (name, after) ← readAnchor (scan.cursor.skip 1)
  return ((saved.allowKey false).moveTo after).emit (token name)

/-- A tag. -/
def takeTag (scan : Scan) : Option Scan := do
  let saved ← scan.saveCandidate
  let (token, after) ← readTag scan.inFlow scan.cursor
  return ((saved.allowKey false).moveTo after).emit token

/-- A block scalar. -/
def takeBlockScalar (scan : Scan) (style : Style) : Option Scan := do
  let dropped ← scan.dropCandidate
  let (text, after) ← readBlock (style == .literal) scan.indent (scan.cursor.skip 1)
  return ((dropped.allowKey true).moveTo after).emit (.scalar (String.ofList text) style)

/-- A quoted scalar. -/
def takeQuoted (scan : Scan) (style : Style) : Option Scan := do
  let saved ← scan.saveCandidate
  let (text, after) ←
    readQuoted (style == .singleQuoted) (scan.cursor.rest.length + 1) [] (scan.cursor.skip 1)
  return ((saved.allowKey false).moveTo after).emit (.scalar (String.ofList text) style)

/-- A plain scalar. -/
def takePlain (scan : Scan) : Option Scan := do
  let saved ← scan.saveCandidate
  let (text, broken, after) ←
    readPlain scan.inFlow (scan.indent + 1).toNat (scan.cursor.rest.length + 1) []
      ⟨false, [], [], []⟩ scan.cursor
  return ((saved.allowKey broken).moveTo after).emit (.scalar (String.ofList text) .plain)

/-! ### The whole text -/

/-- Whether a plain scalar may start here. -/
def startsPlain (scan : Scan) (letter : Char) : Bool :=
  !(isSpace letter || isBreak letter || "-?:,[]\x7b\x7d#&*!|>'\"%@\x60".toList.contains letter) ||
    (letter == '-' && !(scan.cursor.peek 1).any isSpace) ||
    (!scan.inFlow && (letter == '?' || letter == ':') && !scan.cursor.endsAt 1)

/-- The token that starts with a letter. -/
def takeFrom (scan : Scan) (letter : Char) : Option Scan :=
  let atMark := scan.inFlow || scan.cursor.endsAt 1
  if scan.cursor.column == 0 && letter == '%' then scan.takeDirective
  else if scan.cursor.atDocumentMark then
    scan.takeDocumentMark (if letter == '-' then .documentStart else .documentEnd)
  else if letter == '[' then scan.takeOpening .flowSequenceStart
  else if letter == '\x7b' then scan.takeOpening .flowMappingStart
  else if letter == ']' then scan.takeClosing .flowSequenceEnd
  else if letter == '\x7d' then scan.takeClosing .flowMappingEnd
  else if letter == ',' then scan.takeFlowEntry
  else if letter == '-' && scan.cursor.endsAt 1 then scan.takeBlockEntry
  else if letter == '?' && atMark then scan.takeKey
  else if letter == ':' && atMark then scan.takeValue
  else if letter == '*' then scan.takeAnchor .alias
  else if letter == '&' then scan.takeAnchor .anchor
  else if letter == '!' then scan.takeTag
  else if letter == '|' && !scan.inFlow then scan.takeBlockScalar .literal
  else if letter == '>' && !scan.inFlow then scan.takeBlockScalar .folded
  else if letter == '\'' then scan.takeQuoted .singleQuoted
  else if letter == '"' then scan.takeQuoted .doubleQuoted
  else if scan.startsPlain letter then scan.takePlain
  else none

/-- Takes tokens up to the end of the text. -/
def takeAll : Nat → Scan → Option Scan
  | 0, _ => none
  | steps + 1, scan => do
    let fresh ← (skipBlanks (scan.cursor.rest.length + 1) scan).refresh
    let level := fresh.closeBlocks fresh.cursor.column
    match level.cursor.rest with
    | [] => level.takeEnd
    | letter :: _ => takeAll steps (← level.takeFrom letter)

end Scan

/-- Whether a character may stand in a YAML text. -/
def isYamlLetter (letter : Char) : Bool :=
  let code := letter.toNat
  letter == '\t' || letter == '\n' || letter == '\r' || (0x20 ≤ code && code ≤ 0x7E) ||
    code == 0x85 || (0xA0 ≤ code && code ≤ 0xD7FF) || (0xE000 ≤ code && code ≤ 0xFFFD) ||
    0x10000 ≤ code

/-- The tokens of a text, unless it is no YAML. -/
def tokens? (text : String) : Option (List Token) :=
  let letters := text.toList
  if letters.all isYamlLetter then
    (Scan.takeAll (letters.length + 1) (Scan.start letters)).map fun scan => scan.emitted.reverse
  else none

end SchemaFerry.Yaml
