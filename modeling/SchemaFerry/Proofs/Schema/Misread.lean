/-
**Default expressions that are misread.**

A default that is kept should be one value of the destination (`IsContained`), made from an
expression that is one value of the source and nothing more; what is dropped should be blank, the
null value, or one call that draws from a sequence (`IsFaithful`). This fails exactly for the
expressions that are misread (`IsMisread`): a text is taken for a literal because it starts and ends
with a quote, a word for infinity or for what is not a number is taken for a number, and what stands
behind the first cast or behind a draw from a sequence is not looked at.

* `isTextLiteral_iff` — what is taken for a text literal;
* `isFaithful_of_not_isMisread`, `IsMisread.not_isFaithful` — the two directions;
* **`translate_isFaithful_iff`** — the translation is faithful exactly for the expressions that are
  not misread;
* `translate_keeps_concatenations` — two concatenations that are kept, one of them in part.
-/

import SchemaFerry.Proofs.Schema.OneValue

namespace SchemaFerry.Text

/-! ### Texts between quotes -/

/-- Reading on behind letters whose quotes are written twice. -/
theorem undouble?_append (mark : Char) (body rest : List Char) :
    undouble? mark (doubled mark body ++ rest) = (undouble? mark rest).map (body ++ ·) := by
  induction body with
  | nil => exact (Option.map_id' (x := undouble? mark rest)).symm
  | cons letter body ih =>
    rw [doubled]
    by_cases quote : letter = mark
    · subst quote
      rw [if_pos rfl, List.cons_append, List.cons_append, undouble?, if_pos rfl, if_pos rfl, ih,
        Option.map_map]
      rfl
    · rw [if_neg quote, List.cons_append]
      cases more : doubled mark body ++ rest with
      | nil =>
        rw [(List.append_eq_nil_iff.mp more).2]
        exact if_neg quote
      | cons next others =>
        rw [undouble?, if_neg quote, ← more, ih, Option.map_map]
        rfl

/-- **Letters between quotes that are not one literal**: it is closed too early, or not at all. -/
inductive IsBroken : List Char → Prop where
  | joined (first : List Char) {next : Char} (between : List Char) (other : next ≠ '\'') :
      IsBroken (quote '\'' first ++ next :: (between ++ ['\'']))
  | unclosed (body : List Char) : IsBroken ('\'' :: doubled '\'' (body ++ ['\'']))

theorem IsBroken.exists_cons {letters : List Char} (broken : IsBroken letters) :
    ∃ rest, letters = '\'' :: rest := by
  cases broken with
  | joined first between other => exact ⟨_, rfl⟩
  | unclosed body => exact ⟨_, rfl⟩

/-- **They are not one literal.** -/
theorem IsBroken.ne_quote {letters : List Char} (broken : IsBroken letters) (body : List Char) :
    letters ≠ quote '\'' body := by
  rintro rfl
  have read := unquote?_quote '\'' body
  generalize same : quote '\'' body = letters at broken read
  cases broken with
  | joined first between other =>
    rw [quote, List.cons_append, unquote?, if_pos rfl, List.append_assoc, undouble?_append,
      List.singleton_append, undouble?, if_pos rfl, if_neg other] at read
    cases read
  | unclosed text =>
    have unclosed := undouble?_append '\'' (text ++ ['\'']) []
    rw [List.append_nil] at unclosed
    rw [unquote?, if_pos rfl, unclosed] at read
    cases read

theorem doubled_concat (mark : Char) (body : List Char) (last : Char) :
    doubled mark (body ++ [last]) = doubled mark body ++ doubled mark [last] := by
  induction body with
  | nil => rfl
  | cons letter rest ih =>
    rw [List.cons_append, doubled, doubled, ih]
    split
    · rfl
    · rfl

/-- Letters that are not read up to a closing quote have none, or something behind it. -/
theorem shape_of_undouble?_eq_none {mark : Char} {letters : List Char}
    (unread : undouble? mark letters = none) :
    (∃ body, letters = doubled mark body) ∨
      ∃ body next rest, letters = doubled mark body ++ mark :: next :: rest ∧ next ≠ mark := by
  fun_induction undouble? mark letters with
  | case1 => exact .inl ⟨[], rfl⟩
  | case2 => cases unread
  | case3 letter other => exact .inl ⟨[letter], by rw [doubled, if_neg other, doubled]⟩
  | case4 rest ih =>
    rcases ih (Option.map_eq_none_iff.mp unread) with ⟨body, rfl⟩ | ⟨body, next, more, rfl, other⟩
    · exact .inl ⟨mark :: body, by rw [doubled, if_pos rfl]⟩
    · exact .inr ⟨mark :: body, next, more, by rw [doubled, if_pos rfl]; rfl, other⟩
  | case5 next rest other => exact .inr ⟨[], next, rest, rfl, other⟩
  | case6 letter next rest plain ih =>
    rcases ih (Option.map_eq_none_iff.mp unread) with ⟨body, same⟩ | ⟨body, after, more, same, other⟩
    · exact .inl ⟨letter :: body, by rw [doubled, if_neg plain, same]⟩
    · exact .inr ⟨letter :: body, after, more, by rw [doubled, if_neg plain, same]; rfl, other⟩

/-- **What starts and ends with a quote** is a literal, or it is not one literal. -/
theorem exists_quote_or_isBroken {inner : List Char} :
    (∃ body, '\'' :: (inner ++ ['\'']) = quote '\'' body) ∨
      IsBroken ('\'' :: (inner ++ ['\''])) := by
  cases read : unquote? '\'' ('\'' :: (inner ++ ['\''])) with
  | some body => exact .inl ⟨body, eq_quote_of_unquote? read⟩
  | none =>
    rw [unquote?, if_pos rfl] at read
    right
    rcases shape_of_undouble?_eq_none read with ⟨body, same⟩ | ⟨body, next, rest, same, other⟩
    · -- The last letter is a quote, so it belongs to a quote that is written twice.
      rcases List.eq_nil_or_concat body with rfl | ⟨front, last, rfl⟩
      · exact absurd same (List.append_ne_nil_of_right_ne_nil _ (List.cons_ne_nil _ _))
      · rw [List.concat_eq_append] at same
        by_cases quote : last = '\''
        · rw [same, quote]
          exact .unclosed front
        · have single : doubled '\'' [last] = [last] := by rw [doubled, if_neg quote, doubled]
          rw [doubled_concat, single] at same
          obtain ⟨_, closing⟩ := List.append_inj' same rfl
          exact absurd (List.cons.inj closing).1.symm quote
    · have closing := congrArg List.getLast? same
      rcases List.eq_nil_or_concat rest with rfl | ⟨between, last, rfl⟩
      · rw [List.getLast?_concat, List.append_cons, List.getLast?_concat] at closing
        exact absurd (Option.some.inj closing).symm other
      · rw [List.concat_eq_append, ← List.cons_append, ← List.cons_append, ← List.append_assoc,
          List.getLast?_concat, List.getLast?_concat] at closing
        have shape : '\'' :: (inner ++ ['\'']) =
            quote '\'' body ++ next :: (between ++ ['\'']) := by
          rw [same, quote, List.concat_eq_append, ← Option.some.inj closing, List.cons_append,
            List.append_assoc]
          rfl
        rw [shape]
        exact .joined body between other

end SchemaFerry.Text

namespace SchemaFerry.Schema

open SchemaFerry.Identifier SchemaFerry.Text

/-- **What is taken for a text literal** is one, or letters between quotes that are not one. -/
theorem isTextLiteral_iff {letters : List Char} :
    isTextLiteral letters = true ↔ (∃ body, letters = quote '\'' body) ∨ IsBroken letters := by
  constructor
  · intro literal
    rw [isTextLiteral, Bool.and_eq_true, Bool.and_eq_true, decide_eq_true_eq, beq_iff_eq,
      beq_iff_eq] at literal
    obtain ⟨⟨long, start⟩, finish⟩ := literal
    obtain ⟨rest, rfl⟩ := List.head?_eq_some_iff.mp start
    rcases List.eq_nil_or_concat rest with rfl | ⟨inner, last, rfl⟩
    · exact absurd long (by decide)
    · rw [List.concat_eq_append, ← List.cons_append, List.getLast?_concat] at finish
      rw [List.concat_eq_append, Option.some.inj finish]
      exact exists_quote_or_isBroken
  · rintro (⟨body, rfl⟩ | broken)
    · exact isTextLiteral_between _
    · cases broken with
      | @joined first next between other =>
        have whole := isTextLiteral_between (doubled '\'' first ++ '\'' :: next :: between)
        rw [List.append_assoc] at whole
        rw [quote, List.cons_append, List.append_assoc]
        exact whole
      | unclosed body =>
        rw [doubled_concat]
        have whole := isTextLiteral_between (doubled '\'' body ++ ['\''])
        rw [List.append_assoc] at whole
        exact whole

/-! ### What a default should be -/

/-- **One value of the destination**: the time, the date, a truth value, a numeral, or one text
literal. -/
def IsContained (expression : String) : Prop :=
  expression ∈ ["SYSTIMESTAMP", "SYSDATE", "1", "0"] ∨ Number.IsNumeral expression.toList ∨
    ∃ text, expression = quoted '\'' text

/-- The null value, in letters of either case. -/
def IsNull (letters : List Char) : Prop :=
  letters.map Char.toLower = "null".toList

/-- Letters in which all brackets outside of text literals are closed. -/
inductive IsBalanced : List Char → Prop where
  | nil : IsBalanced []
  | letter {first : Char} {rest : List Char} (plain : first ∉ ['(', ')', '\''])
      (others : IsBalanced rest) : IsBalanced (first :: rest)
  | literal (body : List Char) {rest : List Char} (others : IsBalanced rest) :
      IsBalanced (quote '\'' body ++ rest)
  | bracketed {inner rest : List Char} (inside : IsBalanced inner) (others : IsBalanced rest) :
      IsBalanced ('(' :: (inner ++ ')' :: rest))

/-- **An expression is one call that draws from a sequence**, perhaps with casts behind it. -/
def IsDraw (expression : String) : Prop :=
  ∃ call arguments gap casts, call.map Char.toLower = "nextval(".toList ∧ IsBalanced arguments ∧
    AreBlank gap ∧ IsCasts casts ∧
      trim expression.toList = call ++ (arguments ++ ')' :: (gap ++ casts))

/-- **The translation of an expression is faithful.**

* `contained` — what is kept is one value of the destination;
* `kept` — it is made from an expression that is one value, not from a part of an expression;
* `dropped` — only blank expressions, the null value and draws from a sequence are dropped. -/
structure IsFaithful (expression : String) : Prop where
  contained : ∀ value, DefaultValue.translate expression = .keep value → IsContained value
  kept : ∀ value, DefaultValue.translate expression = .keep value →
    IsOne IsSourceValue expression
  dropped : DefaultValue.translate expression = .drop →
    trim expression.toList = [] ∨ IsDraw expression ∨ IsOne IsNull expression

/-- **An expression is misread.**

* `drawn` — it starts like a draw from a sequence, but is not one call;
* `broken` — its value starts and ends with a quote, but is not one literal;
* `word` — its value is a word for infinity or for what is not a number;
* `cut` — behind a value there is something else than casts. -/
inductive IsMisread (expression : String) : Prop where
  | drawn (draws : isSequenceCall (trimmed expression) = true) (more : ¬IsDraw expression)
  | broken (unfilled : ¬IsFilled expression) (broken : IsBroken (valueOf (trim expression.toList)))
  | word (unfilled : ¬IsFilled expression)
      (word : Number.IsNumberWord (valueOf (trim expression.toList)))
  | cut (unfilled : ¬IsFilled expression) (value : IsSourceValue (valueOf (trim expression.toList)))
      (more : ¬IsCasts (castsOf (trim expression.toList)))

/-! ### Expressions that are not misread -/

theorem isNull_iff {letters : List Char} :
    IsNull letters ↔ String.ofList (lower letters) = "null" := by
  have plain : isAsciiWord "null".toList = true := by decide
  rw [IsNull, ← lower_eq_iff plain]
  constructor
  · intro same
    rw [same, String.ofList_toList]
  · intro same
    rw [← same, String.toList_ofList]

theorem IsNull.isRuled {letters : List Char} (null : IsNull letters) : IsRuled letters := by
  rw [IsRuled, isNull_iff.mp null]
  exact List.mem_cons_self

/-- What a word is replaced by is one value. -/
theorem isContained_of_mem_keptWords {word given : String} (listed : (word, given) ∈ keptWords) :
    IsContained given := by
  have all : ∀ entry ∈ keptWords, entry.2 ∈ ["SYSTIMESTAMP", "SYSDATE", "1", "0"] := by
    decide
  exact .inl (all _ listed)

/-- A value that is supported is one of the source, or it is misread. -/
theorem Becomes.value {value : List Char} {result : DefaultValue} (becomes : Becomes value result)
    (supported : result ≠ .unsupported) :
    IsSourceValue value ∨ IsBroken value ∨ Number.IsNumberWord value := by
  cases becomes with
  | dropped null => exact .inl (.word (isNull_iff.mpr null).isRuled)
  | replaced listed => exact .inl (.word (isRuled_of_mem listed))
  | unsupported _ _ => exact absurd rfl supported
  | kept _ taken =>
    rw [isTextLiteral_iff, Number.isLiteral_iff] at taken
    rcases taken with (⟨body, same⟩ | broken) | numeral | word
    · exact .inl (.literal same)
    · exact .inr (.inl broken)
    · exact .inl (.numeral numeral)
    · exact .inr (.inr word)

/-- A value of the source is kept as one value of the destination. -/
theorem Becomes.isContained {value : List Char} {given : String}
    (becomes : Becomes value (.keep given)) (source : IsSourceValue value) : IsContained given := by
  cases becomes with
  | replaced listed => exact isContained_of_mem_keptWords listed
  | kept free _ =>
    cases source with
    | word ruled => exact absurd ruled free
    | numeral numeral =>
      refine .inr (.inl ?_)
      rwa [String.toList_ofList]
    | @literal body same =>
      refine .inr (.inr ⟨String.ofList body, ?_⟩)
      rw [same, quoted, String.toList_ofList]

/-- **What is not misread is translated faithfully.** -/
theorem isFaithful_of_not_isMisread {expression : String} (read : ¬IsMisread expression) :
    IsFaithful expression := by
  by_cases filled : IsFilled expression
  · have result := translate_of_isFilled filled
    refine ⟨fun value kept => ?_, fun value kept => ?_, fun _ => ?_⟩
    · rw [result] at kept
      cases kept
    · rw [result] at kept
      cases kept
    · rcases filled with blank | draws
      · exact .inl blank
      · exact .inr (.inl (by_contra fun more => read (.drawn draws more)))
  · have becomes := translate_becomes filled
    have source : DefaultValue.translate expression ≠ .unsupported →
        IsSourceValue (valueOf (trim expression.toList)) := by
      intro supported
      rcases becomes.value supported with source | broken | word
      · exact source
      · exact absurd (.broken filled broken) read
      · exact absurd (.word filled word) read
    have casts : IsSourceValue (valueOf (trim expression.toList)) →
        IsCasts (castsOf (trim expression.toList)) := fun value =>
      by_contra fun more => read (.cut filled value more)
    refine ⟨fun value kept => ?_, fun value kept => ?_, fun dropped => ?_⟩
    · rw [kept] at becomes source
      exact becomes.isContained (source (by simp))
    · have value := source (by rw [kept]; simp)
      exact (isOne_iff fun _ => IsSourceValue.standsAlone).mpr ⟨value, casts value⟩
    · rw [dropped] at becomes
      cases becomes with
      | dropped null =>
        have value := isNull_iff.mpr null
        exact .inr (.inr ((isOne_iff fun _ null => null.isRuled.standsAlone).mpr
          ⟨value, casts (.word value.isRuled)⟩))

/-! ### What is kept -/

/-- A value without a rule that is taken for a literal is kept. -/
theorem translate_eq_keep {expression : String} (unfilled : ¬IsFilled expression)
    (free : ¬IsRuled (valueOf (trim expression.toList)))
    (taken : isTextLiteral (valueOf (trim expression.toList)) = true ∨
      Number.isLiteral (valueOf (trim expression.toList)) = true) :
    DefaultValue.translate expression =
      .keep (String.ofList (valueOf (trim expression.toList))) := by
  have becomes := translate_becomes unfilled
  generalize DefaultValue.translate expression = result at becomes ⊢
  cases becomes with
  | dropped null => exact absurd (isNull_iff.mpr null).isRuled free
  | replaced listed => exact absurd (isRuled_of_mem listed) free
  | kept _ _ => rfl
  | unsupported _ other => exact absurd taken other

/-- There is no rule for letters between quotes that are not one literal. -/
theorem not_isRuled_of_isBroken {letters : List Char} (broken : IsBroken letters) :
    ¬IsRuled letters := by
  intro ruled
  rcases ruled.shape with ⟨plain, _⟩ | ⟨body, same⟩
  · obtain ⟨rest, rfl⟩ := broken.exists_cons
    exact (plain _ List.mem_cons_self).2.2 rfl
  · exact broken.ne_quote body same

theorem not_isContained_of_isBroken {letters : List Char} (broken : IsBroken letters) :
    ¬IsContained (String.ofList letters) := by
  obtain ⟨rest, shape⟩ := broken.exists_cons
  rintro (listed | numeral | ⟨text, same⟩)
  · have heads : ∀ word ∈ ["SYSTIMESTAMP", "SYSDATE", "1", "0"], word.toList.head? ≠ some '\'' := by
      decide
    exact heads _ listed (by rw [String.toList_ofList, shape, List.head?_cons])
  · rw [String.toList_ofList, shape] at numeral
    exact absurd (isNumeralLetter_of_isNumeral numeral _ List.mem_cons_self) (by decide)
  · rw [quoted, String.ofList_inj] at same
    exact broken.ne_quote _ same

/-- The letters of a word for infinity or for what is not a number. -/
theorem letters_of_isNumberWord {letters : List Char} (word : Number.IsNumberWord letters) :
    ∃ sign ∈ ["", "+", "-"], ∃ name ∈ ["inf", "infinity", "nan"],
      letters.map Char.toLower = (sign ++ name).toList := by
  obtain ⟨sign, name, signed, rfl, named⟩ := word
  have listed : ∃ given ∈ ["inf", "infinity", "nan"], name.map Char.toLower = given.toList := by
    simp only [List.mem_cons, List.not_mem_nil, or_false] at named
    rcases named with same | same | same
    · exact ⟨"inf", by decide, same⟩
    · exact ⟨"infinity", by decide, same⟩
    · exact ⟨"nan", by decide, same⟩
  obtain ⟨given, member, same⟩ := listed
  simp only [List.map_append, same, String.toList_append]
  cases signed with
  | none => exact ⟨"", by decide, given, member, rfl⟩
  | plus => exact ⟨"+", by decide, given, member, rfl⟩
  | minus => exact ⟨"-", by decide, given, member, rfl⟩

/-- There is no rule for these words. -/
theorem not_isRuled_of_isNumberWord {letters : List Char} (word : Number.IsNumberWord letters) :
    ¬IsRuled letters := by
  obtain ⟨sign, signed, name, named, same⟩ := letters_of_isNumberWord word
  have plain : ∀ sign ∈ ["", "+", "-"], ∀ name ∈ ["inf", "infinity", "nan"],
      isAsciiWord (sign ++ name).toList = true ∧
        sign ++ name ∉ "null" :: keptWords.map Prod.fst := by
    decide
  obtain ⟨ascii, free⟩ := plain sign signed name named
  rw [IsRuled, (lower_eq_iff ascii).mpr same, String.ofList_toList]
  exact free

theorem not_isContained_of_isNumberWord {letters : List Char} (word : Number.IsNumberWord letters) :
    ¬IsContained (String.ofList letters) := by
  obtain ⟨sign, signed, name, named, same⟩ := letters_of_isNumberWord word
  rintro (listed | numeral | ⟨text, literal⟩)
  · have others : ∀ given ∈ ["SYSTIMESTAMP", "SYSDATE", "1", "0"], ∀ sign ∈ ["", "+", "-"],
        ∀ name ∈ ["inf", "infinity", "nan"],
          given.toList.map Char.toLower ≠ (sign ++ name).toList := by
      decide
    exact others _ listed sign signed name named (by rwa [String.toList_ofList])
  · rw [String.toList_ofList] at numeral
    exact Number.not_isNumeral_of_isNumberWord word numeral
  · have heads : ∀ sign ∈ ["", "+", "-"], ∀ name ∈ ["inf", "infinity", "nan"],
        (sign ++ name).toList.head? ≠ some '\'' := by
      decide
    rw [quoted, String.ofList_inj] at literal
    rw [literal, map_toLower_quote] at same
    exact heads sign signed name named (by rw [← same, quote, List.head?_cons])

/-! ### Draws from sequences -/

/-- What draws from a sequence starts with the call, blanks at the start apart. -/
theorem isSequenceCall_trimmed (expression : String) :
    isSequenceCall (trimmed expression) =
      "nextval(".toList.isPrefixOf (lower (trim expression.toList)) := by
  rw [isSequenceCall, trimmed, String.toList_ofList, String.toList_ofList,
    trimStart_eq_self (isTrimmed_trim expression.toList).start]

theorem IsDraw.isSequenceCall_eq {expression : String} (draw : IsDraw expression) :
    isSequenceCall (trimmed expression) = true := by
  obtain ⟨call, arguments, gap, casts, name, _, _, _, same⟩ := draw
  obtain ⟨more, small⟩ := lower_append (ascii_of_map_toLower (by decide) name)
    (arguments ++ ')' :: (gap ++ casts))
  rw [isSequenceCall_trimmed, same, small, name, List.isPrefixOf_iff_prefix]
  exact List.prefix_append _ _

/-- An expression that draws from a sequence is not the null value. -/
theorem not_isOne_isNull_of_draws {expression : String}
    (draws : isSequenceCall (trimmed expression) = true) : ¬IsOne IsNull expression := by
  rintro ⟨value, enclosed, gap, casts, null, encloses, _, _, same⟩
  rw [isSequenceCall_trimmed, same] at draws
  cases encloses with
  | bare =>
    obtain ⟨more, small⟩ := lower_append (ascii_of_map_toLower (by decide) null) (gap ++ casts)
    rw [small, null] at draws
    exact Bool.false_ne_true draws
  | bracketed _ _ _ =>
    obtain ⟨more, small⟩ := lower_cons (by decide : '('.toNat < 0x80) rfl _
    rw [List.cons_append, small] at draws
    exact Bool.false_ne_true draws

/-! ### Expressions that are misread -/

/-- A value of the source is supported. -/
theorem Becomes.supported {value : List Char} {result : DefaultValue}
    (becomes : Becomes value result) (source : IsSourceValue value) : result ≠ .unsupported := by
  rintro rfl
  cases becomes with
  | unsupported free other =>
    cases source with
    | word ruled => exact free ruled
    | numeral numeral => exact other (.inr (Number.isLiteral_iff.mpr (.inl numeral)))
    | literal same => exact other (.inl (isTextLiteral_iff.mpr (.inl ⟨_, same⟩)))

/-- **What is misread is not translated faithfully.** -/
theorem IsMisread.not_isFaithful {expression : String} (misread : IsMisread expression) :
    ¬IsFaithful expression := by
  intro faithful
  cases misread with
  | drawn draws more =>
    rcases faithful.dropped (translate_of_isFilled (.inr draws)) with blank | draw | null
    · rw [isSequenceCall_trimmed, blank] at draws
      exact Bool.false_ne_true draws
    · exact more draw
    · exact not_isOne_isNull_of_draws draws null
  | broken unfilled broken =>
    have kept := translate_eq_keep unfilled (not_isRuled_of_isBroken broken)
      (.inl (isTextLiteral_iff.mpr (.inr broken)))
    exact not_isContained_of_isBroken broken (faithful.contained _ kept)
  | word unfilled word =>
    have kept := translate_eq_keep unfilled (not_isRuled_of_isNumberWord word)
      (.inr (Number.isLiteral_iff.mpr (.inr word)))
    exact not_isContained_of_isNumberWord word (faithful.contained _ kept)
  | cut unfilled value more =>
    have supported := (translate_becomes unfilled).supported value
    cases result : DefaultValue.translate expression with
    | keep given =>
      exact more ((isOne_iff fun _ => IsSourceValue.standsAlone).mp (faithful.kept _ result)).2
    | drop =>
      rcases faithful.dropped result with blank | draw | null
      · exact unfilled (.inl blank)
      · exact unfilled (.inr draw.isSequenceCall_eq)
      · exact more ((isOne_iff fun _ null => null.isRuled.standsAlone).mp null).2
    | unsupported => exact supported result

/-- **The translation is faithful exactly for the expressions that are not misread.** -/
theorem translate_isFaithful_iff (expression : String) :
    IsFaithful expression ↔ ¬IsMisread expression :=
  ⟨fun faithful misread => misread.not_isFaithful faithful, isFaithful_of_not_isMisread⟩

/-- **A concatenation is kept as it is, and of one with casts only a part is kept.** -/
theorem translate_keeps_concatenations :
    DefaultValue.translate "'a' || 'b'" = .keep "'a' || 'b'" ∧ ¬IsContained "'a' || 'b'" ∧
      DefaultValue.translate "'a'::text || 'b'::text" = .keep "'a'" ∧
      ¬IsOne IsSourceValue "'a'::text || 'b'::text" := by
  refine ⟨by decide +kernel, ?_, by decide +kernel, fun one => ?_⟩
  · exact not_isContained_of_isBroken (.joined ['a'] "|| 'b".toList (by decide : ' ' ≠ '\''))
  · have casts := ((isOne_iff fun _ => IsSourceValue.standsAlone).mp one).2.areCastLetters
    have cut : castsOf (trim "'a'::text || 'b'::text".toList) = "::text || 'b'::text".toList := by
      decide +kernel
    rw [cut] at casts
    rcases casts with quote | plain
    · revert quote
      decide
    · exact absurd (plain '|' (by decide)) (by decide)

end SchemaFerry.Schema
