/-
**Texts in quotes.**

A quoted text is wrapped in a quote character, and each quote character inside is written twice.
`unquote?` reads the text back and refuses anything that is not one quoted text.

* `unquote?_quote`: reading a quoted text gives the text;
* `eq_quote_of_unquote?`: only quoted texts are read.
-/

namespace SchemaFerry.Text

/-- The letters with every `mark` written twice. -/
def doubled (mark : Char) : List Char → List Char
  | [] => []
  | letter :: rest =>
    if letter = mark then mark :: mark :: doubled mark rest else letter :: doubled mark rest

/-- The letters in quotes. -/
def quote (mark : Char) (letters : List Char) : List Char :=
  mark :: (doubled mark letters ++ [mark])

/-- The text in quotes. -/
def quoted (mark : Char) (text : String) : String :=
  String.ofList (quote mark text.toList)

/-- Reads letters with every `mark` written twice up to the closing `mark`, which ends the text. -/
def undouble? (mark : Char) : List Char → Option (List Char)
  | [] => none
  | [letter] => if letter = mark then some [] else none
  | letter :: next :: rest =>
    if letter = mark then
      if next = mark then (undouble? mark rest).map (mark :: ·) else none
    else
      (undouble? mark (next :: rest)).map (letter :: ·)

/-- Reads a text in quotes. -/
def unquote? (mark : Char) : List Char → Option (List Char)
  | [] => none
  | letter :: rest => if letter = mark then undouble? mark rest else none

/-! ### Reading back -/

private theorem undouble?_doubled (mark : Char) (letters : List Char) :
    undouble? mark (doubled mark letters ++ [mark]) = some letters := by
  induction letters with
  | nil => simp [doubled, undouble?]
  | cons letter rest hypothesis =>
    by_cases same : letter = mark
    · simp [doubled, undouble?, same, hypothesis]
    · cases shape : doubled mark rest ++ [mark] with
      | nil => simp at shape
      | cons next tail =>
        simp [doubled, same, shape, undouble?]
        simpa [shape] using hypothesis

/-- Reading a quoted text gives the text. -/
theorem unquote?_quote (mark : Char) (letters : List Char) :
    unquote? mark (quote mark letters) = some letters := by
  simp [unquote?, quote, undouble?_doubled]

private theorem eq_doubled_of_undouble? {mark : Char} {written letters : List Char}
    (read : undouble? mark written = some letters) : written = doubled mark letters ++ [mark] := by
  fun_induction undouble? mark written generalizing letters <;> simp_all [doubled]
  · obtain ⟨inner, found, rfl⟩ := read
    simp_all [doubled]
  · obtain ⟨inner, found, rfl⟩ := read
    simp_all [doubled]

/-- Only quoted texts are read. -/
theorem eq_quote_of_unquote? {mark : Char} {written letters : List Char}
    (read : unquote? mark written = some letters) : written = quote mark letters := by
  unfold unquote? at read
  split at read
  · simp at read
  · split at read
    · simp_all [quote, eq_doubled_of_undouble? read]
    · simp at read

end SchemaFerry.Text
