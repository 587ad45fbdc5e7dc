/-
**Values of YAML nodes.**

How a node is read as a value of a wanted kind. Any scalar is a text; a plain one is a number if it
is written like one; an empty plain scalar is also an empty sequence and an empty mapping. A value
that may be absent is so if it is a plain empty scalar or a plain null. The keys of a mapping are
scalars, and a wanted key stands once at most.
-/

import SchemaFerry.Number.Whole
import SchemaFerry.Yaml.Node

namespace SchemaFerry.Yaml

/-- A place in a document. -/
structure Value where
  document : Document
  node : Node

namespace Value

/-- The node at a place, that of the anchor for an alias. -/
def resolved (value : Value) : Option Node :=
  match value.node with
  | .alias anchor => value.document.anchored.lookup anchor
  | node => some node

/-- The place of another node of the document. -/
def sibling (value : Value) (node : Node) : Value :=
  ⟨value.document, node⟩

/-- The text of a scalar. -/
def text? (value : Value) : Option String :=
  match value.resolved with
  | some (.scalar text _ _) => some text
  | _ => none

/-- Whether a scalar is written like null. -/
def isNullText (text : String) : Bool :=
  text == "null" || text == "Null" || text == "NULL" || text == "~"

/-- A value that may be absent. -/
def nullable? (value : Value) : Option (Option Value) :=
  match value.resolved with
  | none => none
  | some (.scalar text .plain none) =>
    if text.isEmpty || isNullText text then some none else some (some value)
  | some (.scalar text .plain (some tag)) =>
    if tag == "tag:yaml.org,2002:null" then
      if isNullText text then some none else none
    else some (some value)
  | some _ => some (some value)

/-- The items of a sequence. -/
def items? (value : Value) : Option (List Value) :=
  match value.resolved with
  | some (.sequence items) => some (items.map value.sibling)
  | some (.scalar "" .plain _) => some []
  | _ => none

/-- The pairs of a mapping with their keys as texts. -/
def pairs? (value : Value) : Option (List (String × Value)) :=
  match value.resolved with
  | some (.mapping pairs) =>
    pairs.mapM fun pair =>
      (value.sibling pair.1).text?.map fun key => (key, value.sibling pair.2)
  | some (.scalar "" .plain _) => some []
  | _ => none

/-- The value of a wanted key; it may not stand twice. -/
def single? (pairs : List (String × Value)) (key : String) : Option (Option Value) :=
  match pairs.filter fun pair => pair.1 == key with
  | [] => some none
  | [pair] => some (some pair.2)
  | _ => none

/-- The values of wanted keys. -/
def fields? (keys : List String) (value : Value) : Option (List (Option Value)) :=
  value.pairs?.bind fun pairs => keys.mapM (single? pairs)

/-! ### Numbers -/

/-- The text of a scalar that may be a number. -/
def numberText? (value : Value) : Option (List Char) :=
  match value.resolved with
  | some (.scalar text .plain _) => some text.toList
  | some (.scalar text .literal (some "tag:yaml.org,2002:int")) => some text.toList
  | _ => none

/-- Whether letters start with a sign. -/
def startsWithSign (letters : List Char) : Bool :=
  letters.head? == some '+' || letters.head? == some '-'

/-- Whether letters are digits with a zero too many at the front, which make no number. -/
def isPaddedDigits (letters : List Char) : Bool :=
  match if startsWithSign letters then letters.drop 1 else letters with
  | '0' :: next :: rest => (next :: rest).all Char.isDigit
  | _ => false

/-- The radix that a mark after a zero stands for. -/
def radixOf? : Char → Option Nat
  | 'x' => some 16
  | 'o' => some 8
  | 'b' => some 2
  | _ => none

/-- A natural number of 64 bits. -/
def nat64? (value : Value) : Option Nat := do
  let letters ← value.numberText?
  let unsigned :=
    match letters with
    | '+' :: rest => rest
    | _ => letters
  let marked :=
    match unsigned with
    | '0' :: mark :: digits =>
      (radixOf? mark).bind fun radix =>
        (Number.digitsValue? radix digits).filter (· ≤ Number.maxNat64)
    | _ => none
  if marked.isSome then marked
  else if startsWithSign unsigned || isPaddedDigits letters then none
  else Number.natural? 10 Number.maxNat64 unsigned

/-- An integer of 64 bits. -/
def int64? (value : Value) : Option Int := do
  let letters ← value.numberText?
  let (signed, unsigned) :=
    match letters with
    | '+' :: rest => (true, rest)
    | _ => (false, letters)
  if signed && startsWithSign unsigned then none
  let within := fun (number : Int) => Number.minInt64 ≤ number && number ≤ Number.maxInt64
  let marked :=
    match unsigned with
    | '0' :: mark :: digits =>
      (radixOf? mark).bind fun radix =>
        ((Number.digitsValue? radix digits).map Int.ofNat).filter within
    | '-' :: '0' :: mark :: digits =>
      (radixOf? mark).bind fun radix =>
        ((Number.digitsValue? radix digits).map fun number => -Int.ofNat number).filter within
    | _ => none
  if marked.isSome then marked
  else if isPaddedDigits letters then none
  else Number.integer? 10 Number.minInt64 Number.maxInt64 unsigned

end Value

/-- The value that a text holds. -/
def Value.ofText? (text : String) : Option Value := do
  let document ← Document.ofText? text
  return ⟨document, ← document.root⟩

end SchemaFerry.Yaml
