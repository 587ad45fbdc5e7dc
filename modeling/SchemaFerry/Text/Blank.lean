/-
**Blank characters and trimming.**

A blank is a character with the Unicode property `White_Space`. Trimming removes blanks from the
ends of a text and touches nothing else:

* `trimStart_eq_nil_iff`: exactly the texts made of blanks trim to nothing;
* `trimStart_head`, `trimEnd_last`: a trimmed text neither starts nor ends with a blank.
-/

namespace SchemaFerry.Text

/-- The characters with the Unicode property `White_Space`. -/
def isBlank (letter : Char) : Bool :=
  let code := letter.toNat
  (9 ≤ code && code ≤ 13) || code == 0x20 || code == 0x85 || code == 0xA0 || code == 0x1680 ||
    (0x2000 ≤ code && code ≤ 0x200A) || code == 0x2028 || code == 0x2029 || code == 0x202F ||
    code == 0x205F || code == 0x3000

/-- The letters from the first one that is not blank. -/
def trimStart (letters : List Char) : List Char :=
  letters.dropWhile isBlank

/-- The letters up to the last one that is not blank. -/
def trimEnd (letters : List Char) : List Char :=
  (letters.reverse.dropWhile isBlank).reverse

/-- The letters without the blanks at both ends. -/
def trim (letters : List Char) : List Char :=
  trimEnd (trimStart letters)

/-- The text without the blanks at both ends. -/
def trimmed (text : String) : String :=
  String.ofList (trim text.toList)

/-- The text without the blanks at its end. -/
def trimmedEnd (text : String) : String :=
  String.ofList (trimEnd text.toList)

/-- Whether a text holds nothing but blanks. -/
def isAllBlank (text : String) : Bool :=
  text.toList.all isBlank

/-! ### Lemmas -/

/-- A front-trimmed text does not start with a blank. -/
theorem trimStart_head {letters : List Char} {first : Char} {rest : List Char}
    (shape : trimStart letters = first :: rest) : isBlank first = false := by
  have kept := List.head?_dropWhile_not isBlank letters
  rw [show letters.dropWhile isBlank = first :: rest from shape] at kept
  simpa using kept

/-- An end-trimmed text does not end with a blank. -/
theorem trimEnd_last {letters front : List Char} {last : Char}
    (shape : trimEnd letters = front ++ [last]) : isBlank last = false := by
  have flipped : trimStart letters.reverse = last :: front.reverse := by
    have := congrArg List.reverse shape
    simpa [trimEnd, trimStart] using this
  exact trimStart_head flipped

/-- Exactly the texts made of blanks trim to nothing. -/
theorem trimStart_eq_nil_iff {letters : List Char} :
    trimStart letters = [] ↔ ∀ letter ∈ letters, isBlank letter = true := by
  induction letters with
  | nil => simp [trimStart]
  | cons first rest hypothesis =>
    unfold trimStart at hypothesis ⊢
    by_cases blank : isBlank first = true
    · rw [List.dropWhile_cons_of_pos blank, hypothesis]
      simp [blank]
    · rw [List.dropWhile_cons_of_neg blank]
      simp [blank]

end SchemaFerry.Text
