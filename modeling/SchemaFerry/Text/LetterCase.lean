/-
**Letter case.**

Full case conversion, in which one letter may become several (`ß` is written `SS` in capitals).
`upper` converts letter by letter. `lower` does too, except that a capital sigma at the end of a
word becomes the final sigma: it is at the end of a word if, ignorable characters apart, a cased
letter stands before it and none after it. `sameLetters` compares texts up to the case of the
letters `A` to `Z`.

* `upper_append`: capitals are formed letter by letter;
* `upperLetter_ascii`: the letters of ASCII have one capital letter each.
-/

import SchemaFerry.Text.CaseTable

namespace SchemaFerry.Text

/-- Whether one of the runs holds the character. -/
def inRanges (ranges : List (Nat × Nat)) (letter : Char) : Bool :=
  ranges.any fun range => range.1 ≤ letter.toNat && letter.toNat ≤ range.2

/-- The image of a character under the first range that holds it, else the character itself. -/
def mapByRanges (ranges : List CaseRange) (letter : Char) : Char :=
  match ranges.findSome? fun range => range.map? letter.toNat with
  | some code => Char.ofNat code
  | none => letter

/-- The capital form of one letter. -/
def upperLetter (letter : Char) : List Char :=
  if letter.toNat < 0x80 then
    [letter.toUpper]
  else
    match upperExpansions.lookup letter.toNat with
    | some codes => codes.map Char.ofNat
    | none => [mapByRanges upperRanges letter]

/-- The text in capital letters. -/
def upper (letters : List Char) : List Char :=
  letters.flatMap upperLetter

/-- The small form of one letter outside any word. -/
def lowerLetter (letter : Char) : List Char :=
  if letter.toNat < 0x80 then [letter.toLower]
  else if letter.toNat = 0x130 then [Char.ofNat 0x69, Char.ofNat 0x307]
  else [mapByRanges lowerRanges letter]

/-- Whether the first character that is not ignorable is a cased letter. -/
def meetsCased (letters : List Char) : Bool :=
  match letters.dropWhile (inRanges ignorableRanges) with
  | letter :: _ => inRanges casedRanges letter
  | [] => false

/-- Small letters of a text, given the letters before it in reverse order. -/
def lowerAfter (before : List Char) : List Char → List Char
  | [] => []
  | letter :: rest =>
    (if letter.toNat = 0x3A3 then
      if meetsCased before && !meetsCased rest then [Char.ofNat 0x3C2] else [Char.ofNat 0x3C3]
    else lowerLetter letter) ++ lowerAfter (letter :: before) rest

/-- The text in small letters. -/
def lower (letters : List Char) : List Char :=
  lowerAfter [] letters

/-- The text in capital letters. -/
def uppercased (text : String) : String :=
  String.ofList (upper text.toList)

/-- The text in small letters. -/
def lowercased (text : String) : String :=
  String.ofList (lower text.toList)

/-- Whether two texts are equal up to the case of the letters `A` to `Z`. -/
def sameLetters (first second : String) : Bool :=
  first.toList.map Char.toLower == second.toList.map Char.toLower

/-! ### Lemmas -/

/-- Capitals are formed letter by letter. -/
theorem upper_append (first second : List Char) :
    upper (first ++ second) = upper first ++ upper second := by
  simp [upper]

/-- A letter of ASCII has one capital letter. -/
theorem upperLetter_ascii {letter : Char} (small : letter.toNat < 0x80) :
    upperLetter letter = [letter.toUpper] := by
  simp [upperLetter, small]

end SchemaFerry.Text
