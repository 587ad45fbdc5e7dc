/-
**Names as tokens of a statement.**

A name stands in a statement as one token (`Spells`): a plain word that is not reserved, or letters
between double quotes in which each quote stands twice. Reading a token gives the one name that it
spells, and nothing but tokens is read (`read?_eq_some_iff`).

No letter of a name ends its token early or lets it run into what follows: among the fronts of a
text that starts with a token, this one is the longest that is a token, unless the text goes on with
a letter that would belong to it (`Spells.length_le`).

* **`written_isLossless`** — a name is written as a token that spells its normalized form and
  nothing else, and the source is given a token that spells the name itself.
-/

import Mathlib.Data.List.Infix
import SchemaFerry.Identifier.Basic

namespace SchemaFerry.Identifier

open SchemaFerry.Text

/-! ### Tokens -/

/-- Letters in which each double quote stands twice, and the letters that they stand for. -/
inductive Doubles : List Char → List Char → Prop where
  | nil : Doubles [] []
  | quote {inner letters : List Char} (rest : Doubles inner letters) :
      Doubles ('"' :: '"' :: inner) ('"' :: letters)
  | plain {letter : Char} {inner letters : List Char} (other : letter ≠ '"')
      (rest : Doubles inner letters) : Doubles (letter :: inner) (letter :: letters)

/-- **A token spells a name**: it is a word that starts with `A` to `Z`, goes on with `A` to `Z`,
digits and the marks `_`, `$` and `#`, and is not reserved; or it stands in double quotes and has
each quote between them twice. -/
inductive Spells : List Char → List Char → Prop where
  | word {first : Char} {rest : List Char} (capital : first.isUpper = true)
      (others : ∀ letter ∈ rest, isWordLetter letter = true)
      (free : String.ofList (first :: rest) ∉ reservedWords) :
      Spells (first :: rest) (first :: rest)
  | quoted {inner letters : List Char} (doubles : Doubles inner letters) :
      Spells ('"' :: (inner ++ ['"'])) letters

/-- Whether a token would go on with a letter behind it: a word with a letter of a word, a token in
quotes with another quote. -/
def goesOnWith (token : List Char) (letter : Char) : Bool :=
  if token.head? = some '"' then letter == '"' else isWordLetter letter

theorem doubles_doubled (letters : List Char) : Doubles (doubled '"' letters) letters := by
  induction letters with
  | nil => exact .nil
  | cons letter rest ih =>
    rw [doubled]
    by_cases same : letter = '"'
    · rw [if_pos same, same]
      exact .quote ih
    · rw [if_neg same]
      exact .plain same ih

theorem Doubles.eq_doubled {inner letters : List Char} (doubles : Doubles inner letters) :
    inner = doubled '"' letters := by
  induction doubles with
  | nil => rfl
  | quote _ ih => rw [doubled, if_pos rfl, ← ih]
  | plain other _ ih => rw [doubled, if_neg other, ← ih]

/-- A plain word starts with a capital letter, has word letters only, and is not reserved. -/
theorem isPlain_iff {token : String} : isPlain token = true ↔
    ∃ first rest, token.toList = first :: rest ∧ first.isUpper = true ∧
      (∀ letter ∈ rest, isWordLetter letter = true) ∧ token ∉ reservedWords := by
  rw [isPlain]
  cases token.toList with
  | nil => simp only [Bool.false_eq_true, reduceCtorEq, false_and, exists_false]
  | cons first rest =>
    simp only [Bool.and_eq_true, List.all_eq_true, Bool.not_eq_true', List.contains_eq_mem,
      decide_eq_false_iff_not, List.cons.injEq, and_assoc]
    constructor
    · rintro ⟨capital, others, free⟩
      exact ⟨first, rest, rfl, rfl, capital, others, free⟩
    · rintro ⟨_, _, rfl, rfl, capital, others, free⟩
      exact ⟨capital, others, free⟩

/-- **Exactly the tokens are read, each as the name that it spells.** -/
theorem read?_eq_some_iff {token name : String} :
    read? token = some name ↔ Spells token.toList name.toList := by
  rw [read?]
  by_cases plain : isPlain token = true
  · rw [if_pos plain, Option.some.injEq]
    obtain ⟨first, rest, shape, capital, others, free⟩ := isPlain_iff.mp plain
    constructor
    · rintro rfl
      rw [← String.ofList_toList (s := token), shape] at free
      rw [shape]
      exact .word capital others free
    · intro spells
      rw [shape] at spells
      generalize same : name.toList = letters at spells
      cases spells with
      | word => exact String.toList_injective (shape.trans same.symm)
      | quoted => cases capital
  · rw [if_neg plain]
    constructor
    · intro read
      obtain ⟨letters, found, rfl⟩ := Option.map_eq_some_iff.mp read
      rw [eq_quote_of_unquote? found, String.toList_ofList]
      exact .quoted (doubles_doubled letters)
    · intro spells
      generalize shape : token.toList = written at spells
      generalize same : name.toList = letters at spells
      cases spells with
      | word capital others free =>
        rw [← shape, String.ofList_toList] at free
        exact absurd (isPlain_iff.mpr ⟨_, _, shape, capital, others, free⟩) plain
      | quoted doubles =>
        have quotes : '"' :: (doubled '"' letters ++ ['"']) = quote '"' letters := rfl
        rw [doubles.eq_doubled, quotes, unquote?_quote, Option.map_some, ← same,
          String.ofList_toList]

/-! ### Where a token ends -/

/-- Letters in quotes that end within others end no later than these, unless a quote follows. -/
theorem Doubles.length_le {inner letters : List Char} (doubles : Doubles inner letters)
    {other stands rest : List Char} (others : Doubles other stands)
    (ends : rest.head? ≠ some '"') (isFront : other ++ ['"'] <+: inner ++ '"' :: rest) :
    other.length ≤ inner.length := by
  induction doubles generalizing other stands with
  | nil =>
    cases others with
    | nil => exact Nat.le_refl _
    | quote =>
      -- The second quote would be the first letter behind the token.
      obtain ⟨more, whole⟩ := isFront
      cases whole
      exact absurd rfl ends
    | plain differs => exact absurd (List.cons_prefix_cons.mp isFront).1 differs
  | quote _ ih =>
    cases others with
    | nil => exact Nat.zero_le _
    | quote rest =>
      have inside := (List.cons_prefix_cons.mp (List.cons_prefix_cons.mp isFront).2).2
      exact Nat.add_le_add_right (ih rest inside) 2
    | plain differs => exact absurd (List.cons_prefix_cons.mp isFront).1 differs
  | plain differs _ ih =>
    cases others with
    | nil => exact Nat.zero_le _
    | quote => exact absurd (List.cons_prefix_cons.mp isFront).1.symm differs
    | plain _ rest =>
      exact Nat.add_le_add_right (ih rest (List.cons_prefix_cons.mp isFront).2) 1

/-- A front of a text that is longer than another one holds the letter behind this one. -/
theorem exists_mem_of_length_lt {front token rest : List Char} (isFront : front <+: token ++ rest)
    (longer : token.length < front.length) :
    ∃ letter ∈ front.drop token.length, rest.head? = some letter := by
  have behind : front.drop token.length <+: rest := by
    have dropped := isFront.drop token.length
    rwa [List.drop_left] at dropped
  cases shape : front.drop token.length with
  | nil => exact absurd (List.drop_eq_nil_iff.mp shape) (Nat.not_le.mpr longer)
  | cons letter more =>
    rw [shape] at behind
    obtain ⟨tail, rfl⟩ := behind
    exact ⟨letter, List.mem_cons_self, rfl⟩

/-- **A token ends where it ends**: of the fronts of a text that starts with it, no longer one is a
token, unless the text goes on with a letter that would belong to it. -/
theorem Spells.length_le {token name : List Char} (spells : Spells token name) {rest : List Char}
    (ends : ∀ letter, rest.head? = some letter → goesOnWith token letter = false)
    {front other : List Char} (spelled : Spells front other) (isFront : front <+: token ++ rest) :
    front.length ≤ token.length := by
  cases spells with
  | word capital others =>
    cases spelled with
    | word _ letters =>
      refine Nat.not_lt.mp fun longer => ?_
      obtain ⟨letter, member, next⟩ := exists_mem_of_length_lt isFront longer
      have outside := ends letter next
      rw [goesOnWith, if_neg, letters letter (List.mem_of_mem_drop member)] at outside
      · cases outside
      · rintro same
        cases same
        cases capital
    | quoted =>
      rw [← (List.cons_prefix_cons.mp isFront).1] at capital
      cases capital
  | quoted doubles =>
    cases spelled with
    | word capital =>
      rw [(List.cons_prefix_cons.mp isFront).1] at capital
      cases capital
    | quoted others =>
      have closed : rest.head? ≠ some '"' := by
        intro next
        have outside := ends _ next
        rw [goesOnWith, if_pos List.head?_cons] at outside
        cases outside
      rw [List.cons_append, List.append_assoc] at isFront
      have within := doubles.length_le others closed (List.cons_prefix_cons.mp isFront).2
      simp only [List.length_cons, List.length_append, List.length_nil]
      omega

/-! ### Names that are written -/

/-- **A token stands for a name of the destination**: it spells this name and no other, and reads as
it; the name is within the length limit, and the token ends where it ends. -/
structure IsTokenOf (token name : String) : Prop where
  spells_iff : ∀ other : String, Spells token.toList other.toList ↔ other = name
  read : read? token = some name
  short : name.toList.length ≤ maxLength
  whole : ∀ rest : List Char,
    (∀ letter, rest.head? = some letter → goesOnWith token.toList letter = false) →
      ∀ front other : List Char, Spells front other → front <+: token.toList ++ rest →
        front.length ≤ token.toList.length

/-- **A written name is a token of the normalized one.** -/
theorem isTokenOf_written (name : String) : IsTokenOf (written name) (normalize name) where
  spells_iff other := by
    rw [← read?_eq_some_iff, read?_written, Option.some.injEq]
    exact eq_comm
  read := read?_written name
  short := normalize_length name
  whole _ ends _ _ spelled isFront :=
    (read?_eq_some_iff.mp (read?_written name)).length_le ends spelled isFront

/-- **Nothing is lost in writing a name but what normalizing loses.**

* `token` — the written name is a token of the normalized one;
* `distinct` — names are written alike exactly if they are normalized alike;
* `source`, `sourceRead` — for the source a name is a token in quotes that spells the name itself,
  and undoing the quotes gives it back. -/
structure IsLossless (name : String) : Prop where
  token : IsTokenOf (written name) (normalize name)
  distinct : ∀ other, written name = written other ↔ normalize name = normalize other
  source : Spells (sourceQuoted name).toList name.toList
  sourceRead : unquote? '"' (sourceQuoted name).toList = some name.toList

theorem written_isLossless (name : String) : IsLossless name where
  token := isTokenOf_written name
  distinct _ := written_eq_written_iff
  source := by
    rw [sourceQuoted, Text.quoted, String.toList_ofList]
    exact .quoted (doubles_doubled name.toList)
  sourceRead := by
    rw [sourceQuoted, Text.quoted, String.toList_ofList, unquote?_quote]

end SchemaFerry.Identifier
