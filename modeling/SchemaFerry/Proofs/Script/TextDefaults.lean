/-
**Text literals as defaults.**

A column whose default is a text literal, perhaps with a cast behind it, is created with this very
literal as its default, whatever its text is, also one with colons, brackets or quotes. But words
for truth and falsehood are replaced by `1` and `0` whatever the type of the column is, and these
words include four that stand in quotes. So the texts `t`, `true`, `f` and `false`, in letters of
either case, do not stay the default of a column of texts.

* `IsTextDefault.translate_eq` — what becomes of a text literal;
* **`build_keepsTexts`** — the defaults of the columns of all tables that a script creates;
* `build_alters_text` — a column of one letter whose default `t` becomes the number one.
-/

import SchemaFerry.Proofs.Schema.Translation
import SchemaFerry.Proofs.Script.Created

namespace SchemaFerry.Schema

open SchemaFerry.Identifier SchemaFerry.Text

/-! ### Expressions that are a text literal -/

/-- An expression is the literal of a text, alone or with a cast behind it to a type of any name. -/
def IsTextDefault (text expression : String) : Prop :=
  expression.toList = quote '\'' text.toList ∨
    ∃ type, expression.toList = quote '\'' text.toList ++ ':' :: ':' :: type

/-- The text is a word for truth, in letters of either case. -/
def IsTrueText (text : String) : Prop :=
  text.toList.map Char.toLower ∈ ["t".toList, "true".toList]

/-- The text is a word for falsehood, in letters of either case. -/
def IsFalseText (text : String) : Prop :=
  text.toList.map Char.toLower ∈ ["f".toList, "false".toList]

instance (text : String) : Decidable (IsTrueText text) :=
  inferInstanceAs (Decidable (_ ∈ _))

instance (text : String) : Decidable (IsFalseText text) :=
  inferInstanceAs (Decidable (_ ∈ _))

/-- An expression that starts with a quote has a value. -/
theorem not_isFilled_of_quote {expression : String} {rest : List Char}
    (shape : trim expression.toList = '\'' :: rest) : ¬IsFilled expression := by
  rintro (blank | draws)
  · rw [shape] at blank
    cases blank
  · have start : trimStart ('\'' :: rest) = '\'' :: rest := rfl
    obtain ⟨more, small⟩ := lower_cons (by decide : '\''.toNat < 0x80) rfl rest
    rw [isSequenceCall, trimmed, String.toList_ofList, shape, String.toList_ofList, start,
      small] at draws
    exact Bool.false_ne_true draws

/-- **The value of a text literal is the literal**, with a cast behind it or without. -/
theorem IsTextDefault.valueOf_eq {text expression : String}
    (literal : IsTextDefault text expression) :
    ¬IsFilled expression ∧ valueOf (trim expression.toList) = quote '\'' text.toList := by
  have plain : (quote '\'' text.toList).head? ≠ some '(' := by
    rw [quote, List.head?_cons]
    decide
  obtain ⟨bare, cast⟩ := valueOf_of_isPassedOver (isPassedOver_quote text.toList)
    (isTrimmed_quote text.toList) plain
  rcases literal with same | ⟨type, same⟩
  · have whole : trim expression.toList = quote '\'' text.toList := by
      rw [same, trim_eq_self (isTrimmed_quote _)]
    exact ⟨not_isFilled_of_quote whole, by rw [whole, bare]⟩
  · -- Trimming reaches into the name of the type at most.
    have whole : trim expression.toList =
        quote '\'' text.toList ++ ':' :: ':' :: trimEnd type := by
      have start : trimStart (quote '\'' text.toList ++ ':' :: ':' :: type) =
          quote '\'' text.toList ++ ':' :: ':' :: type := rfl
      have colon : isBlank ':' = false := rfl
      have behind : trimEnd (':' :: type) = ':' :: trimEnd type :=
        trimEnd_append_cons colon [] type
      rw [same, trim, start, trimEnd_append_cons colon, behind]
    exact ⟨not_isFilled_of_quote whole, by rw [whole, cast]⟩

/-! ### Words for truth and falsehood -/

/-- The words that are replaced and stand in quotes. -/
def quotedWords : List (String × String) :=
  [(quoted '\'' "t", "1"), (quoted '\'' "true", "1"), (quoted '\'' "f", "0"),
    (quoted '\'' "false", "0")]

theorem mem_keptWords_of_quote {rest : List Char} {given : String} :
    (String.ofList ('\'' :: rest), given) ∈ keptWords ↔
      (String.ofList ('\'' :: rest), given) ∈ quotedWords := by
  constructor
  · have all : ∀ entry ∈ keptWords, entry.1.toList.head? = some '\'' → entry ∈ quotedWords := by
      decide
    intro listed
    exact all _ listed (by rw [String.toList_ofList, List.head?_cons])
  · have all : ∀ entry ∈ quotedWords, entry ∈ keptWords := by
      decide
    exact all _

/-- **A text literal is replaced exactly if its text is a word for truth or falsehood.** -/
theorem mem_keptWords_iff {text given : String} :
    (String.ofList (lower (quote '\'' text.toList)), given) ∈ keptWords ↔
      (IsTrueText text ∧ given = "1") ∨ (IsFalseText text ∧ given = "0") := by
  have truth := @lower_quote_eq_iff text.toList "t".toList (by decide)
  have truthWord := @lower_quote_eq_iff text.toList "true".toList (by decide)
  have falsehood := @lower_quote_eq_iff text.toList "f".toList (by decide)
  have falsehoodWord := @lower_quote_eq_iff text.toList "false".toList (by decide)
  have listed : (String.ofList (lower (quote '\'' text.toList)), given) ∈ keptWords ↔
      (String.ofList (lower (quote '\'' text.toList)), given) ∈ quotedWords := by
    obtain ⟨more, small⟩ := lower_quote text.toList
    rw [small, mem_keptWords_of_quote]
  rw [listed]
  simp only [quotedWords, quoted, List.mem_cons, List.not_mem_nil, or_false, Prod.mk.injEq,
    String.ofList_inj, truth, truthWord, falsehood, falsehoodWord, IsTrueText, IsFalseText]
  rw [or_and_right, or_and_right, or_assoc]

/-- No text is a word for both. -/
theorem IsTrueText.not_isFalseText {text : String} (truth : IsTrueText text) :
    ¬IsFalseText text := by
  have apart : ∀ word ∈ ["t".toList, "true".toList], word ∉ ["f".toList, "false".toList] := by
    decide
  exact apart _ truth

/-! ### What becomes of a text literal -/

/-- What the literal of a text becomes. -/
def keptText (text : String) : String :=
  if IsTrueText text then "1" else if IsFalseText text then "0" else quoted '\'' text

theorem keptText_of_true {text : String} (truth : IsTrueText text) : keptText text = "1" :=
  if_pos truth

theorem keptText_of_false {text : String} (falsehood : IsFalseText text) : keptText text = "0" := by
  rw [keptText, if_neg fun truth => truth.not_isFalseText falsehood, if_pos falsehood]

theorem keptText_of_other {text : String} (truth : ¬IsTrueText text)
    (falsehood : ¬IsFalseText text) : keptText text = quoted '\'' text := by
  rw [keptText, if_neg truth, if_neg falsehood]

/-- A number that a word is replaced by is not a text literal. -/
theorem ne_quoted {number : String} (plain : number.toList.head? ≠ some '\'') (text : String) :
    number ≠ quoted '\'' text := by
  rintro rfl
  exact plain (by rw [quoted, String.toList_ofList, quote, List.head?_cons])

/-- A text literal stays as it is exactly if its text is no word for truth or falsehood. -/
theorem keptText_eq_quoted_iff (text : String) :
    keptText text = quoted '\'' text ↔ ¬(IsTrueText text ∨ IsFalseText text) := by
  rw [not_or]
  by_cases truth : IsTrueText text
  · rw [keptText_of_true truth]
    exact iff_of_false (ne_quoted (by decide) text) fun neither => neither.1 truth
  · by_cases falsehood : IsFalseText text
    · rw [keptText_of_false falsehood]
      exact iff_of_false (ne_quoted (by decide) text) fun neither => neither.2 falsehood
    · exact iff_of_true (keptText_of_other truth falsehood) ⟨truth, falsehood⟩

/-- **What becomes of a text literal**: the words for truth and falsehood become numbers, and any
other literal stays. -/
theorem IsTextDefault.translate_eq {text expression : String}
    (literal : IsTextDefault text expression) :
    DefaultValue.translate expression = .keep (keptText text) := by
  obtain ⟨unfilled, value⟩ := literal.valueOf_eq
  have becomes := translate_becomes unfilled
  rw [value] at becomes
  generalize DefaultValue.translate expression = result at becomes ⊢
  have ruled : ∀ {given : String}, (IsTrueText text ∧ given = "1") ∨
      (IsFalseText text ∧ given = "0") → IsRuled (quote '\'' text.toList) :=
    fun word => isRuled_of_mem (mem_keptWords_iff.mpr word)
  cases becomes with
  | dropped null =>
    obtain ⟨more, small⟩ := lower_quote text.toList
    rw [small] at null
    cases String.ofList_injective null
  | replaced word =>
    rcases mem_keptWords_iff.mp word with ⟨truth, rfl⟩ | ⟨falsehood, rfl⟩
    · rw [keptText_of_true truth]
    · rw [keptText_of_false falsehood]
  | kept free taken =>
    rw [keptText_of_other (fun truth => free (ruled (.inl ⟨truth, rfl⟩)))
      (fun falsehood => free (ruled (.inr ⟨falsehood, rfl⟩))), quoted]
  | unsupported free other => exact absurd (.inl (isTextLiteral_between _)) other

end SchemaFerry.Schema

namespace SchemaFerry.Script

open SchemaFerry.Identifier SchemaFerry.Schema SchemaFerry.Text

/-! ### The columns of a script -/

/-- The columns in a statement that creates a table. -/
def Statement.columnDefinitions : Statement → List ColumnDefinition
  | .createTable _ _ columns _ => columns
  | _ => []

/-- **What a column that is created keeps of its text default**, whatever its type is.

* `name` — it is the column of that name;
* `kept_iff` — its default is the same literal exactly if the text is no word for truth or
  falsehood;
* `truth`, `falsehood` — these words become numbers. -/
structure KeepsText (column : Column) (definition : ColumnDefinition) : Prop where
  name : definition.name = written column.name
  kept_iff : ∀ text expression, column.default = some expression → IsTextDefault text expression →
    (definition.default = some (quoted '\'' text) ↔ ¬(IsTrueText text ∨ IsFalseText text))
  truth : ∀ text expression, column.default = some expression → IsTextDefault text expression →
    IsTrueText text → definition.default = some "1"
  falsehood : ∀ text expression, column.default = some expression →
    IsTextDefault text expression → IsFalseText text → definition.default = some "0"

theorem columnDefinition_default {column : Column} {text expression : String}
    (given : column.default = some expression) (literal : IsTextDefault text expression) :
    (columnDefinition column).default = some (keptText text) := by
  rw [columnDefinition, given, Option.map_some, literal.translate_eq]

theorem columnDefinition_keepsText (column : Column) :
    KeepsText column (columnDefinition column) := by
  refine ⟨by rw [columnDefinition], fun text expression given literal => ?_,
    fun text expression given literal truth => ?_,
    fun text expression given literal falsehood => ?_⟩
  · rw [columnDefinition_default given literal, Option.some.injEq, keptText_eq_quoted_iff]
  · rw [columnDefinition_default given literal, keptText_of_true truth]
  · rw [columnDefinition_default given literal, keptText_of_false falsehood]

/-- **The columns of the tables that a script creates keep their text defaults**, but for the words
for truth and falsehood. -/
theorem build_keepsTexts (tables : List Table) (options : Options) :
    List.Forall₂
      (fun entry statement =>
        List.Forall₂ KeepsText entry.1.columns (Statement.columnDefinitions statement))
      (tables.zip (tableNames (tables.map Table.name)).1)
      (createdTables (build tables options).1) := by
  refine (build_creates tables options).imp fun entry statement creates => ?_
  obtain ⟨primaryKey, rfl⟩ := creates
  rw [Statement.columnDefinitions, List.forall₂_map_right_iff, List.forall₂_same]
  exact fun column _ => columnDefinition_keepsText column

/-- A table of replies, of which each is one letter. -/
def replies : Table :=
  { Table.named "public" "replies" with
    columns := [⟨"answer", "character", "bpchar", some 1, none, none, true,
      some "'t'::bpchar", false⟩] }

/-- **The default `t` of a column of letters becomes a number.** -/
theorem build_alters_text :
    IsTextDefault "t" "'t'::bpchar" ∧
      replies.columns.map Column.dataType = ["character"] ∧
      (createdTables (build [replies] ⟨"app", Roles.resolve (some "app") none none, [], []⟩).1).map
          Statement.columnDefinitions =
        [[⟨"ANSWER", "CHAR(1)", some "1", true⟩]] ∧
      "1" ≠ quoted '\'' "t" := by
  refine ⟨.inr ⟨"bpchar".toList, rfl⟩, rfl, ?_, by decide⟩
  decide +kernel

end SchemaFerry.Script
