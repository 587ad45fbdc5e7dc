/-
**A place in a YAML text.**

A cursor holds the characters still to be read and counts from zero: octets in UTF-8 from the start
of the text, lines, and characters from the start of the line. Line breaks are the line feed, the
carriage return, both together, and the three breaks of Unicode; the first four are read as a line
feed, the separators of lines and paragraphs as themselves.

* `takeWhile_text`: nothing is lost between what is taken and what remains.
-/

namespace SchemaFerry.Yaml

/-- A place in a text: what is left of it, the octets passed, the line and the column. -/
structure Cursor where
  rest : List Char
  index : Nat
  line : Nat
  column : Nat
  deriving Repr

/-- Whether a character ends a line. -/
def isBreak (letter : Char) : Bool :=
  letter == '\n' || letter == '\r' || letter.toNat == 0x85 || letter.toNat == 0x2028 ||
    letter.toNat == 0x2029

/-- Whether a character is a blank within a line. -/
def isSpace (letter : Char) : Bool :=
  letter == ' ' || letter == '\t'

/-- Whether a character may stand in an anchor or in the handle of a tag. -/
def isWordLetter (letter : Char) : Bool :=
  letter.isAlphanum || letter == '_' || letter == '-'

/-- The length of characters in octets. -/
def octetLength (letters : List Char) : Nat :=
  letters.foldl (fun length letter => length + letter.utf8Size) 0

namespace Cursor

/-- The start of a text. -/
def start (letters : List Char) : Cursor :=
  ⟨letters, 0, 0, 0⟩

/-- The character some places ahead. -/
def peek (cursor : Cursor) (ahead : Nat) : Option Char :=
  cursor.rest[ahead]?

/-- Whether the next character is the given one. -/
def at? (cursor : Cursor) (letter : Char) : Bool :=
  cursor.rest.head? == some letter

/-- Whether the text, some places ahead, ends or goes on with a blank or a break. -/
def endsAt (cursor : Cursor) (ahead : Nat) : Bool :=
  match cursor.peek ahead with
  | none => true
  | some letter => isSpace letter || isBreak letter

/-- Whether the line ends here. -/
def atLineEnd (cursor : Cursor) : Bool :=
  match cursor.rest with
  | [] => true
  | letter :: _ => isBreak letter

/-- The place some characters further on the line. -/
def skip (cursor : Cursor) (count : Nat) : Cursor :=
  ⟨cursor.rest.drop count, cursor.index + octetLength (cursor.rest.take count), cursor.line,
    cursor.column + count⟩

/-- The characters of a class from here, and the place after them. -/
def takeWhile (cursor : Cursor) (takes : Char → Bool) : List Char × Cursor :=
  let taken := cursor.rest.takeWhile takes
  (taken, ⟨cursor.rest.dropWhile takes, cursor.index + octetLength taken, cursor.line,
    cursor.column + taken.length⟩)

/-- The place after the characters of a class. -/
def skipWhile (cursor : Cursor) (skips : Char → Bool) : Cursor :=
  (cursor.takeWhile skips).2

/-- The place after a comment, if there is one here. -/
def skipComment (cursor : Cursor) : Cursor :=
  if cursor.at? '#' then cursor.skipWhile fun letter => !isBreak letter else cursor

/-- The line break here as it is read, and the start of the next line. -/
def takeBreak (cursor : Cursor) : List Char × Cursor :=
  match cursor.rest with
  | '\r' :: '\n' :: rest => (['\n'], ⟨rest, cursor.index + 2, cursor.line + 1, 0⟩)
  | letter :: rest =>
    if isBreak letter then
      let read := if letter.toNat == 0x2028 || letter.toNat == 0x2029 then letter else '\n'
      ([read], ⟨rest, cursor.index + letter.utf8Size, cursor.line + 1, 0⟩)
    else ([], cursor)
  | [] => ([], cursor)

/-- Whether a line starts here with the mark of the start or the end of a document. -/
def atDocumentMark (cursor : Cursor) : Bool :=
  cursor.column == 0 &&
    ("---".toList.isPrefixOf cursor.rest || "...".toList.isPrefixOf cursor.rest) && cursor.endsAt 3

/-- Nothing is lost between what is taken and what remains. -/
theorem takeWhile_text (cursor : Cursor) (takes : Char → Bool) :
    (cursor.takeWhile takes).1 ++ (cursor.takeWhile takes).2.rest = cursor.rest := by
  simp [takeWhile]

end Cursor

end SchemaFerry.Yaml
