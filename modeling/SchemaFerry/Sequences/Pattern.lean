/-
**Patterns for names that start alike.**

In a pattern a percent sign stands for any letters, an underscore for any one letter, and what
follows a backslash for itself. `startingWith` makes the pattern of all names with a given start,
and `Matches` says which names a pattern stands for. A backslash may stand only before one of the
three marks; a pattern in which it does not stands for nothing.
-/

namespace SchemaFerry.Sequences

/-- Whether a letter has a meaning of its own in a pattern. -/
def isMark (letter : Char) : Bool :=
  letter == '\\' || letter == '_' || letter == '%'

/-- Letters as a pattern that stands for them. -/
def literally : List Char → List Char
  | [] => []
  | letter :: rest =>
    if isMark letter then '\\' :: letter :: literally rest else letter :: literally rest

/-- The pattern of the names that start with a text. -/
def startingWith (text : String) : String :=
  String.ofList (literally text.toList ++ ['%'])

/-- Which letters a pattern stands for. -/
inductive Matches : List Char → List Char → Prop where
  | done : Matches [] []
  | skip {pattern letters : List Char} (rest : Matches pattern letters) :
      Matches ('%' :: pattern) letters
  | more {pattern letters : List Char} (letter : Char) (rest : Matches ('%' :: pattern) letters) :
      Matches ('%' :: pattern) (letter :: letters)
  | any {pattern letters : List Char} (letter : Char) (rest : Matches pattern letters) :
      Matches ('_' :: pattern) (letter :: letters)
  | escaped {pattern letters : List Char} (letter : Char) (mark : isMark letter = true)
      (rest : Matches pattern letters) : Matches ('\\' :: letter :: pattern) (letter :: letters)
  | plain {pattern letters : List Char} (letter : Char) (plain : isMark letter = false)
      (rest : Matches pattern letters) : Matches (letter :: pattern) (letter :: letters)

/-- The text that a pattern made by `startingWith` starts its names with: without the sign at its
end and without the backslashes. -/
def startOf (pattern : String) : String :=
  String.ofList (unescaped (if pattern.toList.getLast? = some '%' then pattern.toList.dropLast
    else pattern.toList))
where
  /-- Letters without the backslashes before marks. -/
  unescaped : List Char → List Char
    | '\\' :: letter :: rest => letter :: unescaped rest
    | letter :: rest => letter :: unescaped rest
    | [] => []

/-! ### Lemmas -/

theorem unescaped_literally (letters : List Char) :
    startOf.unescaped (literally letters) = letters := by
  induction letters with
  | nil => simp [literally, startOf.unescaped]
  | cons letter rest hypothesis =>
    by_cases mark : isMark letter = true
    · simp [literally, mark, startOf.unescaped, hypothesis]
    · have other : letter ≠ '\\' := by
        rintro rfl
        simp [isMark] at mark
      simp only [literally, if_neg mark]
      cases shape : literally rest with
      | nil =>
        rw [shape] at hypothesis
        unfold startOf.unescaped
        split
        · simp_all
        · simp_all
        · simp_all
      | cons next tail =>
        rw [shape] at hypothesis
        unfold startOf.unescaped
        split
        · simp_all
        · simp_all
        · simp_all

end SchemaFerry.Sequences
