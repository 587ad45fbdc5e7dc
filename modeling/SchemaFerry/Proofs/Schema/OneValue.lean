/-
**Expressions that are one value.**

An expression is one value if it is a word with a rule, a numeral or a text literal, perhaps with
brackets around it and casts to types behind it, and nothing else (`IsOne`). The translation
looks at the part of an expression that is left without casts and brackets (`valueOf`); what is cut
off are its casts (`castsOf`), if they are casts.

* `IsSourceValue.standsAlone` — no value has a cast, a bracket or blanks of its own;
* `encloses_withoutBrackets` — what is taken off a value is blanks and brackets around it;
* **`isOne_iff`** — an expression is one value exactly if the part that is looked at is a value
  and the part that is cut off is casts.
-/

import SchemaFerry.Proofs.Number.Numerals
import SchemaFerry.Proofs.Schema.Translation

namespace SchemaFerry.Text

open SchemaFerry.Identifier

/-! ### Blanks around a text -/

/-- All letters are blank. -/
def AreBlank (letters : List Char) : Prop :=
  ∀ letter ∈ letters, isBlank letter = true

theorem areBlank_nil : AreBlank [] := fun _ member => absurd member List.not_mem_nil

/-- A text is what is left of it without blanks at both ends, and these. -/
theorem exists_trim (letters : List Char) :
    ∃ front back, AreBlank front ∧ AreBlank back ∧ letters = front ++ (trim letters ++ back) := by
  obtain ⟨back, same, blank⟩ := exists_blanks (trimStart letters)
  refine ⟨letters.takeWhile isBlank, back, fun _ => List.mem_takeWhile_imp, blank, ?_⟩
  rw [trim, ← same]
  exact List.takeWhile_append_dropWhile.symm

/-- Blanks around a text that is trimmed are taken off. -/
theorem trim_append {front inner back : List Char} (before : AreBlank front)
    (behind : AreBlank back) (trimmed : IsTrimmed inner) :
    trim (front ++ (inner ++ back)) = inner := by
  have start : trimStart (front ++ (inner ++ back)) = trimStart (inner ++ back) :=
    List.dropWhile_append_of_pos before
  have finish : trimEnd (inner ++ back) = inner := trimEnd_append behind trimmed.finish
  rw [trim, start]
  cases inner with
  | nil =>
    have blank : trimStart back = [] := List.dropWhile_eq_nil_iff.mpr behind
    rw [List.nil_append, blank]
    rfl
  | cons first rest =>
    have plain : isBlank first = false := trimmed.start first rest rfl
    have whole : trimStart (first :: rest ++ back) = first :: rest ++ back :=
      List.dropWhile_cons_of_neg (by rw [plain]; exact Bool.false_ne_true)
    rw [whole, finish]

/-- Letters that are not blank are trimmed. -/
theorem isTrimmed_of_plain {letters : List Char}
    (plain : ∀ letter ∈ letters, isBlank letter = false) : IsTrimmed letters where
  start := by
    rintro first rest rfl
    exact plain first List.mem_cons_self
  finish := by
    rintro front last rfl
    exact plain last (List.mem_append_right _ List.mem_cons_self)

/-! ### Plain letters -/

/-- A letter of ASCII that is neither blank nor a colon or a quote. -/
def isPlainLetter (letter : Char) : Bool :=
  letter.toNat < 0x80 && !isBlank letter && letter != ':' && letter != '\''

/-- The letters of a text whose small form is plain are neither blank nor colons or quotes. -/
theorem plain_of_lower {letters : List Char} (small : (lower letters).all isPlainLetter = true) :
    ∀ letter ∈ letters, isBlank letter = false ∧ letter ≠ ':' ∧ letter ≠ '\'' := by
  rw [List.all_eq_true] at small
  intro letter member
  by_cases ascii : letter.toNat < 0x80
  · exact of_ascii (fun letter => isPlainLetter letter.toLower = true →
      isBlank letter = false ∧ letter ≠ ':' ∧ letter ≠ '\'') (by decide +kernel) ascii
        (small _ (toLower_mem_lower member ascii))
  · obtain ⟨image, formed, outside | ⟨_, kelvin⟩⟩ :=
      exists_foreign_of_mem member (Nat.not_lt.mp ascii)
    · have within := small image formed
      simp only [isPlainLetter, Bool.and_eq_true, decide_eq_true_eq] at within
      exact absurd within.1.1.1 (Nat.not_lt.mpr outside)
    · have known : letter = Char.ofNat 0x212A := by rw [← kelvin, Char.ofNat_toNat]
      subst known
      decide

/-- A text that has its quotes written twice in small letters has them written twice itself. -/
theorem exists_doubled_of_map_toLower {letters word : List Char}
    (same : letters.map Char.toLower = doubled '\'' word) :
    ∃ body, letters = doubled '\'' body := by
  induction word generalizing letters with
  | nil => exact ⟨[], List.map_eq_nil_iff.mp same⟩
  | cons letter rest ih =>
    rw [doubled] at same
    by_cases mark : letter = '\''
    · rw [if_pos mark, List.map_eq_cons_iff] at same
      obtain ⟨first, others, rfl, one, same⟩ := same
      obtain ⟨second, others, rfl, two, same⟩ := List.map_eq_cons_iff.mp same
      obtain ⟨body, rfl⟩ := ih same
      rw [toLower_eq_quote_iff] at one two
      exact ⟨'\'' :: body, by rw [doubled, if_pos rfl, one, two]⟩
    · rw [if_neg mark, List.map_eq_cons_iff] at same
      obtain ⟨first, others, rfl, one, same⟩ := same
      obtain ⟨body, rfl⟩ := ih same
      refine ⟨first :: body, ?_⟩
      rw [doubled, if_neg]
      rintro rfl
      exact mark one.symm

/-- A text that is a text literal in small letters is one itself. -/
theorem exists_quote_of_map_toLower {letters word : List Char}
    (same : letters.map Char.toLower = quote '\'' word) : ∃ body, letters = quote '\'' body := by
  rw [quote, List.map_eq_cons_iff] at same
  obtain ⟨first, others, rfl, one, same⟩ := same
  obtain ⟨front, back, rfl, inside, close⟩ := List.map_eq_append_iff.mp same
  obtain ⟨last, more, rfl, two, nothing⟩ := List.map_eq_cons_iff.mp close
  obtain rfl := List.map_eq_nil_iff.mp nothing
  obtain ⟨body, rfl⟩ := exists_doubled_of_map_toLower inside
  rw [toLower_eq_quote_iff] at one two
  exact ⟨body, by rw [quote, one, two]⟩

end SchemaFerry.Text

namespace SchemaFerry.Schema

open SchemaFerry.Identifier SchemaFerry.Text

/-! ### Values -/

/-- **A value of the source**: a word for which there is a rule, a numeral, or a text literal. -/
inductive IsSourceValue (letters : List Char) : Prop where
  | word (ruled : IsRuled letters)
  | numeral (numeral : Number.IsNumeral letters)
  | literal {body : List Char} (same : letters = quote '\'' body)

/-- **Letters stand alone**: a scan for casts passes them over, and there are neither blanks nor
brackets around them. -/
structure StandsAlone (letters : List Char) : Prop where
  passed : IsPassedOver letters
  trimmed : IsTrimmed letters
  bare : letters.head? ≠ some '('

theorem standsAlone_quote (body : List Char) : StandsAlone (quote '\'' body) where
  passed := isPassedOver_quote body
  trimmed := isTrimmed_quote body
  bare := by
    rw [quote, List.head?_cons]
    decide

theorem standsAlone_of_plain {letters : List Char}
    (plain : ∀ letter ∈ letters, isBlank letter = false ∧ letter ≠ ':' ∧ letter ≠ '\'')
    (bare : letters.head? ≠ some '(') : StandsAlone letters where
  passed := isPassedOver_of_plain fun letter member => (plain letter member).2
  trimmed := isTrimmed_of_plain fun letter member => (plain letter member).1
  bare := bare

/-- **The words for which there is a rule are plain or text literals.** -/
theorem IsRuled.shape {letters : List Char} (ruled : IsRuled letters) :
    ((∀ letter ∈ letters, isBlank letter = false ∧ letter ≠ ':' ∧ letter ≠ '\'') ∧
        letters.head? ≠ some '(') ∨
      ∃ body, letters = quote '\'' body := by
  have shapes : ∀ word ∈ "null" :: keptWords.map Prod.fst,
      (word.toList.all isPlainLetter && word.toList.head? != some '(') = true ∨
        ∃ text ∈ ["t", "true", "f", "false"], word = quoted '\'' text := by
    decide
  rcases shapes _ ruled with plain | ⟨text, listed, same⟩
  · rw [String.toList_ofList, Bool.and_eq_true, bne_iff_ne] at plain
    refine .inl ⟨plain_of_lower plain.1, fun bracket => plain.2 ?_⟩
    obtain ⟨rest, rfl⟩ := List.head?_eq_some_iff.mp bracket
    obtain ⟨more, small⟩ := lower_cons (by decide : '('.toNat < 0x80) rfl rest
    rw [small, List.head?_cons]
  · have plain : ∀ text ∈ ["t", "true", "f", "false"],
        isAsciiWord (quote '\'' text.toList) = true := by
      decide
    rw [quoted, String.ofList_inj, lower_eq_iff (plain text listed)] at same
    exact .inr (exists_quote_of_map_toLower same)

theorem IsRuled.standsAlone {letters : List Char} (ruled : IsRuled letters) :
    StandsAlone letters := by
  rcases ruled.shape with ⟨plain, bare⟩ | ⟨body, rfl⟩
  · exact standsAlone_of_plain plain bare
  · exact standsAlone_quote body

/-- A letter of a numeral. -/
def isNumeralLetter (letter : Char) : Bool :=
  letter.isDigit || letter == '+' || letter == '-' || letter == '.' || letter == 'e' ||
    letter == 'E'

theorem isNumeralLetter_of_isNumeral {letters : List Char} (numeral : Number.IsNumeral letters) :
    ∀ letter ∈ letters, isNumeralLetter letter = true := by
  have ofDigits : ∀ {digits : List Char}, Number.AreDigits digits →
      ∀ letter ∈ digits, isNumeralLetter letter = true := by
    intro digits are letter member
    simp only [isNumeralLetter, are letter member, Bool.true_or]
  have ofSign : ∀ {sign : List Char}, Number.IsSign sign →
      ∀ letter ∈ sign, isNumeralLetter letter = true := by
    intro sign signed
    cases signed with
    | none => exact fun _ member => absurd member List.not_mem_nil
    | plus => exact List.forall_mem_singleton.mpr rfl
    | minus => exact List.forall_mem_singleton.mpr rfl
  obtain ⟨signed, digits, scaled⟩ := numeral
  refine List.forall_mem_append.mpr ⟨ofSign signed, List.forall_mem_append.mpr ⟨?_, ?_⟩⟩
  · cases digits with
    | whole _ are => exact ofDigits are
    | pointed _ front back =>
      exact List.forall_mem_append.mpr
        ⟨ofDigits front, List.forall_mem_cons.mpr ⟨rfl, ofDigits back⟩⟩
  · cases scaled with
    | none => exact fun _ member => absurd member List.not_mem_nil
    | some marked signed _ are =>
      refine List.forall_mem_cons.mpr
        ⟨?_, List.forall_mem_append.mpr ⟨ofSign signed, ofDigits are⟩⟩
      rcases marked with rfl | rfl
      · rfl
      · rfl

theorem plain_of_isNumeralLetter {letter : Char} (own : isNumeralLetter letter = true) :
    (isBlank letter = false ∧ letter ≠ ':' ∧ letter ≠ '\'') ∧ letter ≠ '(' := by
  have ascii : letter.toNat < 0x80 := by
    simp only [isNumeralLetter, Char.isDigit, Bool.or_eq_true, Bool.and_eq_true, decide_eq_true_eq,
      beq_iff_eq, UInt32.le_iff_toNat_le] at own
    rcases own with ((((⟨_, most⟩ | rfl) | rfl) | rfl) | rfl) | rfl
    · exact Nat.lt_of_le_of_lt most (by decide)
    iterate 5 decide
  exact of_ascii (fun letter => isNumeralLetter letter = true →
    (isBlank letter = false ∧ letter ≠ ':' ∧ letter ≠ '\'') ∧ letter ≠ '(') (by decide +kernel)
      ascii own

/-- **A value stands alone.** -/
theorem IsSourceValue.standsAlone {letters : List Char} (value : IsSourceValue letters) :
    StandsAlone letters := by
  cases value with
  | word ruled => exact ruled.standsAlone
  | literal same =>
    rw [same]
    exact standsAlone_quote _
  | numeral numeral =>
    have own := isNumeralLetter_of_isNumeral numeral
    refine standsAlone_of_plain
      (fun letter member => (plain_of_isNumeralLetter (own letter member)).1) fun bracket => ?_
    obtain ⟨rest, rfl⟩ := List.head?_eq_some_iff.mp bracket
    exact (plain_of_isNumeralLetter (own '(' List.mem_cons_self)).2 rfl

/-! ### Brackets -/

/-- **A value with brackets around it**, any number of them, and with blanks inside them. -/
inductive Encloses (value : List Char) : List Char → Prop where
  | bare : Encloses value value
  | bracketed {front inner back : List Char} (before : AreBlank front) (behind : AreBlank back)
      (inside : Encloses value inner) :
      Encloses value ('(' :: ((front ++ (inner ++ back)) ++ [')']))

theorem Encloses.isTrimmed {value letters : List Char} (enclosed : Encloses value letters)
    (trimmed : IsTrimmed value) : IsTrimmed letters := by
  cases enclosed with
  | bare => exact trimmed
  | bracketed _ _ _ => exact isTrimmed_between rfl rfl _

theorem isPassedOver_of_areBlank {letters : List Char} (blank : AreBlank letters) :
    IsPassedOver letters := by
  refine isPassedOver_of_plain fun letter member => ⟨?_, ?_⟩
  · rintro rfl
    exact absurd (blank _ member) (by decide)
  · rintro rfl
    exact absurd (blank _ member) (by decide)

/-- A scan for casts passes a value over with the brackets around it. -/
theorem Encloses.isPassedOver {value letters : List Char} (enclosed : Encloses value letters)
    (passed : IsPassedOver value) : IsPassedOver letters := by
  have opens : IsPassedOver ['('] :=
    isPassedOver_of_plain (List.forall_mem_singleton.mpr (by decide))
  have closes : IsPassedOver [')'] :=
    isPassedOver_of_plain (List.forall_mem_singleton.mpr (by decide))
  induction enclosed with
  | bare => exact passed
  | bracketed before behind _ ih =>
    have inside := (isPassedOver_of_areBlank before).append
      (ih.append (isPassedOver_of_areBlank behind))
    exact opens.append (inside.append closes)

/-- One pair of brackets is taken off. -/
theorem withoutBrackets_bracketed (letters : List Char) :
    withoutBrackets ('(' :: (letters ++ [')'])) = withoutBrackets (trim letters) := by
  rw [withoutBrackets, if_pos List.getLast?_concat, List.dropLast_concat]

/-- **The brackets around a value are taken off.** -/
theorem Encloses.withoutBrackets_eq {value letters : List Char} (enclosed : Encloses value letters)
    (alone : StandsAlone value) : withoutBrackets letters = value := by
  induction enclosed with
  | bare => exact withoutBrackets_eq_self alone.bare
  | bracketed before behind inside ih =>
    rw [withoutBrackets_bracketed, trim_append before behind (inside.isTrimmed alone.trimmed), ih]

/-- **What is taken off is brackets around the rest.** -/
theorem encloses_withoutBrackets (letters : List Char) :
    Encloses (withoutBrackets letters) letters := by
  fun_induction withoutBrackets letters with
  | case1 rest close ih =>
    obtain ⟨inner, rfl⟩ := List.getLast?_eq_some_iff.mp close
    rw [List.dropLast_concat] at ih ⊢
    obtain ⟨front, back, before, behind, same⟩ := exists_trim inner
    nth_rewrite 2 [same]
    exact .bracketed before behind ih
  | case2 rest unclosed => exact .bare
  | case3 letters other => exact .bare

/-! ### Casts -/

/-- A letter of a name that is not in quotes. -/
def isNameLetter (letter : Char) : Bool :=
  letter.isAlphanum || letter == '_' || letter == '$' || 0x80 ≤ letter.toNat

/-- A name, as it is or in double quotes. -/
inductive IsName : List Char → Prop where
  | plain {first : Char} {rest : List Char} (start : first.isDigit = false)
      (are : ∀ letter ∈ first :: rest, isNameLetter letter = true) : IsName (first :: rest)
  | quoted (body : List Char) : IsName (quote '"' body)

/-- The words behind the first one in the names of types. -/
def typeWords : List String :=
  ["character", "char", "varying", "precision", "with", "without", "time", "zone", "year", "month",
    "day", "hour", "minute", "second", "to"]

/-- **The name of a type**, perhaps with its schema, its sizes, the bounds of an array, and further
words. -/
inductive IsTypeName : List Char → Prop where
  | named {name : List Char} (isName : IsName name) : IsTypeName name
  | qualified {type name : List Char} (isType : IsTypeName type) (isName : IsName name) :
      IsTypeName (type ++ '.' :: name)
  | sized {type gap sizes : List Char} (isType : IsTypeName type) (blank : AreBlank gap)
      (are : ∀ letter ∈ sizes, (letter.isDigit || letter == ',' || isBlank letter) = true) :
      IsTypeName (type ++ (gap ++ '(' :: (sizes ++ [')'])))
  | array {type bound : List Char} (isType : IsTypeName type) (are : Number.AreDigits bound) :
      IsTypeName (type ++ '[' :: (bound ++ [']']))
  | worded {type gap word : List Char} (isType : IsTypeName type) (parted : gap ≠ [])
      (blank : AreBlank gap) (listed : String.ofList (word.map Char.toLower) ∈ typeWords) :
      IsTypeName (type ++ (gap ++ word))

/-- **Casts to types**, one after the other, and nothing else. -/
inductive IsCasts : List Char → Prop where
  | none : IsCasts []
  | cast {front type back rest : List Char} (before : AreBlank front) (isType : IsTypeName type)
      (behind : AreBlank back) (others : IsCasts rest) :
      IsCasts (':' :: ':' :: (front ++ (type ++ (back ++ rest))))

example : IsCasts "::timestamp(3) without time zone".toList := by
  have stamp : IsTypeName "timestamp".toList :=
    .named (.plain rfl (List.all_eq_true.mp (by decide)))
  have sized : IsTypeName "timestamp(3)".toList :=
    .sized stamp areBlank_nil (List.forall_mem_singleton.mpr (by decide))
  have spaced : ∀ {type : List Char}, ∀ word ∈ ["without", "time", "zone"], IsTypeName type →
      IsTypeName (type ++ ([' '] ++ word.toList)) := by
    intro type word listed isType
    refine isType.worded (List.cons_ne_nil _ _) (List.forall_mem_singleton.mpr rfl) ?_
    revert word
    decide
  exact .cast areBlank_nil (spaced "zone" (by decide) (spaced "time" (by decide)
    (spaced "without" (by decide) sized))) areBlank_nil .none

/-- A letter that may stand in a cast. -/
def isCastLetter (letter : Char) : Bool :=
  isNameLetter letter || isBlank letter || ['.', ',', '(', ')', '[', ']', ':'].contains letter

/-- Letters hold no operators and literals, unless there is a double quote in them. -/
def AreCastLetters (letters : List Char) : Prop :=
  '"' ∈ letters ∨ ∀ letter ∈ letters, isCastLetter letter = true

theorem AreCastLetters.append {first second : List Char} (one : AreCastLetters first)
    (other : AreCastLetters second) : AreCastLetters (first ++ second) := by
  rcases one with quote | one
  · exact .inl (List.mem_append_left _ quote)
  · rcases other with quote | other
    · exact .inl (List.mem_append_right _ quote)
    · exact .inr (List.forall_mem_append.mpr ⟨one, other⟩)

theorem AreCastLetters.cons {letter : Char} {letters : List Char}
    (one : isCastLetter letter = true) (others : AreCastLetters letters) :
    AreCastLetters (letter :: letters) :=
  AreCastLetters.append (.inr (List.forall_mem_singleton.mpr one)) others

theorem areCastLetters_nil : AreCastLetters [] :=
  .inr fun _ member => absurd member List.not_mem_nil

theorem areCastLetters_of_areBlank {letters : List Char} (blank : AreBlank letters) :
    AreCastLetters letters := by
  refine .inr fun letter member => ?_
  rw [isCastLetter, blank letter member, Bool.or_true, Bool.true_or]

theorem areCastLetters_of_name {letters : List Char}
    (are : ∀ letter ∈ letters, isNameLetter letter = true) : AreCastLetters letters := by
  refine .inr fun letter member => ?_
  rw [isCastLetter, are letter member, Bool.true_or, Bool.true_or]

theorem isNameLetter_of_isDigit {letter : Char} (digit : letter.isDigit = true) :
    isNameLetter letter = true := by
  simp only [isNameLetter, Char.isAlphanum, digit, Bool.or_true, Bool.true_or]

/-- The letters of the words in the names of types are letters of names. -/
theorem isNameLetter_of_mem_typeWords {word : List Char}
    (listed : String.ofList (word.map Char.toLower) ∈ typeWords) :
    ∀ letter ∈ word, isNameLetter letter = true := by
  intro letter member
  by_cases ascii : letter.toNat < 0x80
  · have words : ∀ given ∈ typeWords, given.toList.all isNameLetter = true := by
      decide
    have named := words _ listed
    rw [String.toList_ofList, List.all_eq_true] at named
    exact of_ascii (fun letter => isNameLetter letter.toLower = true → isNameLetter letter = true)
      (by decide +kernel) ascii (named _ (List.mem_map_of_mem member))
  · rw [isNameLetter, decide_eq_true (Nat.not_lt.mp ascii), Bool.or_true]

theorem IsName.areCastLetters {name : List Char} (isName : IsName name) :
    AreCastLetters name := by
  cases isName with
  | plain _ are => exact areCastLetters_of_name are
  | quoted body => exact .inl List.mem_cons_self

theorem IsTypeName.areCastLetters {type : List Char} (isType : IsTypeName type) :
    AreCastLetters type := by
  induction isType with
  | named isName => exact isName.areCastLetters
  | qualified _ isName ih => exact ih.append (.cons rfl isName.areCastLetters)
  | @sized type gap sizes _ blank are ih =>
    have inside : AreCastLetters sizes := by
      refine .inr fun letter member => ?_
      have shape := are letter member
      rw [Bool.or_eq_true, Bool.or_eq_true, beq_iff_eq] at shape
      rcases shape with (digit | rfl) | blank
      · rw [isCastLetter, isNameLetter_of_isDigit digit, Bool.true_or, Bool.true_or]
      · rfl
      · rw [isCastLetter, blank, Bool.or_true, Bool.true_or]
    exact ih.append ((areCastLetters_of_areBlank blank).append
      (.cons rfl (inside.append (.cons rfl areCastLetters_nil))))
  | array _ are ih =>
    have bound := areCastLetters_of_name fun letter member =>
      isNameLetter_of_isDigit (are letter member)
    exact ih.append (.cons rfl (bound.append (.cons rfl areCastLetters_nil)))
  | worded _ _ blank listed ih =>
    have word := areCastLetters_of_name (isNameLetter_of_mem_typeWords listed)
    exact ih.append ((areCastLetters_of_areBlank blank).append word)

/-- **Casts hold neither operators nor literals**, outside of names in double quotes. -/
theorem IsCasts.areCastLetters {letters : List Char} (are : IsCasts letters) :
    AreCastLetters letters := by
  induction are with
  | none => exact areCastLetters_nil
  | cast before isType behind _ ih =>
    exact .cons rfl (.cons rfl ((areCastLetters_of_areBlank before).append
      (isType.areCastLetters.append ((areCastLetters_of_areBlank behind).append ih))))

/-- The part of an expression from its first cast on, which is cut off. -/
def castsOf (letters : List Char) : List Char :=
  match beforeCast? false letters with
  | some front => letters.drop front.length
  | none => []

/-- **An expression is one value of a kind**, perhaps with brackets around it and with casts behind
it. -/
def IsOne (isValue : List Char → Prop) (expression : String) : Prop :=
  ∃ value enclosed gap casts, isValue value ∧ Encloses value enclosed ∧ AreBlank gap ∧
    IsCasts casts ∧ trim expression.toList = enclosed ++ (gap ++ casts)

/-- An expression with a cast is cut before the cast. -/
theorem valueOf_of_cast {letters front : List Char}
    (cut : beforeCast? false letters = some front) :
    valueOf letters = withoutBrackets (trim front) ∧ letters = front ++ castsOf letters := by
  constructor
  · rw [valueOf, withoutCasts, cut]
  · obtain ⟨after, same⟩ := exists_cast cut
    rw [castsOf, cut, same]
    exact congrArg _ List.drop_left.symm

theorem valueOf_of_no_cast {letters : List Char} (uncast : beforeCast? false letters = none) :
    valueOf letters = withoutBrackets letters ∧ castsOf letters = [] := by
  constructor
  · rw [valueOf, withoutCasts_of_no_cast uncast]
  · rw [castsOf, uncast]

/-- **An expression is one value exactly if its value is one and what is cut off is casts.** -/
theorem isOne_iff {isValue : List Char → Prop}
    (alone : ∀ letters, isValue letters → StandsAlone letters) {expression : String} :
    IsOne isValue expression ↔ isValue (valueOf (trim expression.toList)) ∧
      IsCasts (castsOf (trim expression.toList)) := by
  have whole : IsTrimmed (trim expression.toList) := isTrimmed_trim _
  constructor
  · rintro ⟨value, enclosed, gap, casts, source, encloses, blank, are, same⟩
    have alone := alone value source
    have passed := (encloses.isPassedOver alone.passed).append (isPassedOver_of_areBlank blank)
    have left : trim (enclosed ++ gap) = enclosed :=
      trim_append areBlank_nil blank (encloses.isTrimmed alone.trimmed)
    cases are with
    | none =>
      rw [List.append_nil] at same
      rw [same] at whole ⊢
      obtain ⟨value, casts⟩ := valueOf_of_no_cast passed.beforeCast?_eq_none
      rw [trim_eq_self whole] at left
      rw [value, casts, left, encloses.withoutBrackets_eq alone]
      exact ⟨source, .none⟩
    | cast before isType behind others =>
      rw [← List.append_assoc] at same
      obtain ⟨value, casts⟩ := valueOf_of_cast (passed.beforeCast?_cast _)
      rw [same, value, ← List.append_cancel_left casts, left, encloses.withoutBrackets_eq alone]
      exact ⟨source, .cast before isType behind others⟩
  · rintro ⟨source, are⟩
    cases cut : beforeCast? false (trim expression.toList) with
    | none =>
      obtain ⟨value, casts⟩ := valueOf_of_no_cast cut
      rw [value] at source
      exact ⟨_, _, [], [], source, encloses_withoutBrackets _, areBlank_nil, .none,
        (List.append_nil _).symm⟩
    | some front =>
      obtain ⟨value, same⟩ := valueOf_of_cast cut
      rw [value] at source
      obtain ⟨blanks, gap, first, blank, shape⟩ := exists_trim front
      -- The expression is trimmed, so its front does not start with a blank.
      cases blanks with
      | nil =>
        rw [List.nil_append] at shape
        refine ⟨_, _, gap, _, source, encloses_withoutBrackets _, blank, are, ?_⟩
        rw [← List.append_assoc, ← shape]
        exact same
      | cons letter others =>
        rw [shape, List.append_assoc, List.cons_append] at same
        have plain := whole.start _ _ same
        rw [first letter List.mem_cons_self] at plain
        cases plain

end SchemaFerry.Schema
