/-
**What becomes of a default expression.**

Only the value of an expression counts, which stands inside its brackets and before its first cast
(`valueOf`): some words are replaced by others (`keptWords`), `NULL` is dropped, what is written
like a text literal or is taken for a number stays, and nothing else is supported (`Becomes`).

* **`translate_becomes`** — the translation of an expression by its value;
* `valueOf_of_isPassedOver` — the value of an expression that is a value and perhaps a cast;
* `lower_quote_eq_iff` — the text literals that are taken for words.
-/

import SchemaFerry.Proofs.Schema.Casts
import SchemaFerry.Proofs.Text.SmallLetters

namespace SchemaFerry.Text

/-! ### Trimming -/

theorem trim_eq_self {letters : List Char} (trimmed : Identifier.IsTrimmed letters) :
    trim letters = letters := by
  rw [trim, Identifier.trimStart_eq_self trimmed.start, Identifier.trimEnd_eq_self trimmed.finish]

/-- Blanks are taken off the end only up to a letter that is not blank. -/
theorem trimEnd_append_cons {letter : Char} (plain : isBlank letter = false)
    (front rest : List Char) :
    trimEnd (front ++ letter :: rest) = front ++ letter :: trimEnd rest := by
  have stops : (letter :: front.reverse).dropWhile isBlank = letter :: front.reverse :=
    List.dropWhile_cons_of_neg (by rw [plain]; exact Bool.false_ne_true)
  rw [trimEnd, trimEnd, List.reverse_append, List.reverse_cons, List.append_assoc,
    List.singleton_append, List.dropWhile_append]
  split
  · rename_i blank
    rw [stops, List.isEmpty_iff.mp blank, List.reverse_cons, List.reverse_reverse]
    rfl
  · rw [List.reverse_append, List.reverse_cons, List.reverse_reverse, List.append_assoc]
    rfl

/-- What stands between two letters that are not blank is trimmed with them. -/
theorem isTrimmed_between {first last : Char} (start : isBlank first = false)
    (finish : isBlank last = false) (inner : List Char) :
    Identifier.IsTrimmed (first :: (inner ++ [last])) where
  start := by
    rintro letter rest shape
    obtain ⟨rfl, _⟩ := List.cons.inj shape
    exact start
  finish := by
    rintro front letter shape
    rw [← List.cons_append] at shape
    obtain ⟨_, same⟩ := List.append_inj' shape rfl
    obtain ⟨rfl, _⟩ := List.cons.inj same
    exact finish

/-! ### Text literals -/

/-- A text literal is trimmed: it starts and ends with a quote. -/
theorem isTrimmed_quote (body : List Char) : Identifier.IsTrimmed (quote '\'' body) :=
  isTrimmed_between rfl rfl _

theorem quote_injective {mark : Char} {first second : List Char}
    (same : quote mark first = quote mark second) : first = second := by
  have read := congrArg (unquote? mark) same
  rwa [unquote?_quote, unquote?_quote, Option.some.injEq] at read

/-- Only a quote has a quote as its small letter. -/
theorem toLower_eq_quote_iff {letter : Char} : letter.toLower = '\'' ↔ letter = '\'' := by
  constructor
  · intro same
    by_cases ascii : letter.toNat < 0x80
    · exact of_ascii (fun letter => letter.toLower = '\'' → letter = '\'') (by decide +kernel)
        ascii same
    · rwa [toLower_of_foreign (Nat.not_lt.mp ascii)] at same
  · rintro rfl
    rfl

theorem map_toLower_doubled (body : List Char) :
    (doubled '\'' body).map Char.toLower = doubled '\'' (body.map Char.toLower) := by
  induction body with
  | nil => rfl
  | cons letter rest ih =>
    rw [doubled, List.map_cons, doubled]
    by_cases quote : letter = '\''
    · rw [if_pos quote, if_pos (toLower_eq_quote_iff.mpr quote), List.map_cons, List.map_cons, ih]
      rfl
    · rw [if_neg quote, if_neg (mt toLower_eq_quote_iff.mp quote), List.map_cons, ih]

/-- The text of a literal is put in small letters with it. -/
theorem map_toLower_quote (body : List Char) :
    (quote '\'' body).map Char.toLower = quote '\'' (body.map Char.toLower) := by
  rw [quote, List.map_cons, List.map_append, map_toLower_doubled]
  rfl

/-- The small form of a text literal starts with a quote. -/
theorem lower_quote (body : List Char) : ∃ more, lower (quote '\'' body) = '\'' :: more :=
  lower_cons (by decide) rfl _

/-- **The text literals that a literal of small letters is the small form of** are those of the
texts that differ from its text at most in the case of `A` to `Z`. -/
theorem lower_quote_eq_iff {body word : List Char}
    (plain : isAsciiWord (quote '\'' word) = true) :
    lower (quote '\'' body) = quote '\'' word ↔ body.map Char.toLower = word := by
  rw [lower_eq_iff plain, map_toLower_quote]
  constructor
  · exact quote_injective
  · rintro rfl
    rfl

end SchemaFerry.Text

namespace SchemaFerry.Schema

open SchemaFerry.Identifier SchemaFerry.Text

/-! ### The value of an expression -/

/-- The value of an expression without blanks around it: what stands inside its brackets, before its
first cast. -/
def valueOf (letters : List Char) : List Char :=
  withoutBrackets (withoutCasts letters)

/-- Letters that do not start with a bracket have none around them. -/
theorem withoutBrackets_eq_self {letters : List Char} (plain : letters.head? ≠ some '(') :
    withoutBrackets letters = letters := by
  unfold withoutBrackets
  split
  · exact absurd rfl plain
  · rfl

/-- **A value with a cast behind it, or without one, is the value of the expression.** -/
theorem valueOf_of_isPassedOver {letters : List Char} (passed : IsPassedOver letters)
    (trimmed : IsTrimmed letters) (plain : letters.head? ≠ some '(') :
    valueOf letters = letters ∧ ∀ after, valueOf (letters ++ ':' :: ':' :: after) = letters := by
  obtain ⟨bare, cast⟩ := withoutCasts_of_isPassedOver passed (trim_eq_self trimmed)
  constructor
  · rw [valueOf, bare, withoutBrackets_eq_self plain]
  · intro after
    rw [valueOf, cast, withoutBrackets_eq_self plain]

/-- Letters between quotes are taken for a text literal. -/
theorem isTextLiteral_between (inner : List Char) :
    isTextLiteral ('\'' :: (inner ++ ['\''])) = true := by
  have long : 2 ≤ ('\'' :: (inner ++ ['\''])).length := by
    rw [List.length_cons, List.length_append, List.length_singleton]
    omega
  rw [isTextLiteral, decide_eq_true long, ← List.cons_append, List.getLast?_concat]
  rfl

/-! ### Translating a value -/

/-- The words that are replaced, and what they are replaced by. -/
def keptWords : List (String × String) :=
  [("now()", "SYSTIMESTAMP"), ("current_timestamp", "SYSTIMESTAMP"),
    ("localtimestamp", "SYSTIMESTAMP"), ("transaction_timestamp()", "SYSTIMESTAMP"),
    ("statement_timestamp()", "SYSTIMESTAMP"), ("clock_timestamp()", "SYSTIMESTAMP"),
    ("current_date", "SYSDATE"), ("true", "1"), ("'t'", "1"), ("'true'", "1"), ("false", "0"),
    ("'f'", "0"), ("'false'", "0")]

/-- A value is one of the words for which there is a rule, in letters of either case. -/
def IsRuled (value : List Char) : Prop :=
  String.ofList (lower value) ∈ "null" :: keptWords.map Prod.fst

/-- There is a rule for the words that are replaced. -/
theorem isRuled_of_mem {value : List Char} {given : String}
    (listed : (String.ofList (lower value), given) ∈ keptWords) : IsRuled value :=
  List.mem_cons_of_mem _ (List.mem_map_of_mem listed)

/-- **What becomes of a value**: `NULL` is dropped, the words are replaced, and text literals and
numbers stay as they are. -/
inductive Becomes (value : List Char) : DefaultValue → Prop where
  | dropped (null : String.ofList (lower value) = "null") : Becomes value .drop
  | replaced {given : String} (listed : (String.ofList (lower value), given) ∈ keptWords) :
      Becomes value (.keep given)
  | kept (free : ¬IsRuled value)
      (taken : isTextLiteral value = true ∨ Number.isLiteral value = true) :
      Becomes value (.keep (String.ofList value))
  | unsupported (free : ¬IsRuled value)
      (other : ¬(isTextLiteral value = true ∨ Number.isLiteral value = true)) :
      Becomes value .unsupported

/-- An expression without a value of its own: a blank one, or one that draws from a sequence. -/
def IsFilled (expression : String) : Prop :=
  trim expression.toList = [] ∨ isSequenceCall (trimmed expression) = true

theorem translate_of_isFilled {expression : String} (filled : IsFilled expression) :
    DefaultValue.translate expression = .drop := by
  unfold DefaultValue.translate
  dsimp only
  refine if_pos ?_
  rw [Bool.or_eq_true, List.isEmpty_iff]
  exact filled

/-- **The translation of an expression is what becomes of its value.** -/
theorem translate_becomes {expression : String} (unfilled : ¬IsFilled expression) :
    Becomes (valueOf (trim expression.toList)) (DefaultValue.translate expression) := by
  unfold DefaultValue.translate
  dsimp only
  rw [if_neg]
  · have listed : ∀ {given word : String},
        String.ofList (lower (valueOf (trim expression.toList))) = word →
          (word, given) ∈ keptWords →
            Becomes (valueOf (trim expression.toList)) (.keep given) := by
      rintro given word rfl member
      exact .replaced member
    split
    · exact .dropped (by assumption)
    iterate 13
      · exact listed (by assumption) (by decide)
    · have free : ¬IsRuled (valueOf (trim expression.toList)) := by
        simp only [IsRuled, keptWords, valueOf, List.map_cons, List.map_nil, List.mem_cons,
          List.not_mem_nil, or_false]
        tauto
      split
      · rename_i taken
        exact .kept free ((Bool.or_eq_true _ _).mp taken)
      · rename_i other
        exact .unsupported free (mt (Bool.or_eq_true _ _).mpr other)
  · rw [Bool.or_eq_true, List.isEmpty_iff]
    exact unfilled

end SchemaFerry.Schema
