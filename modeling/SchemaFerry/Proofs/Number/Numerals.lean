/-
**What a numeric literal is.**

A numeral is an optional sign, digits with an optional point among them or at one of their ends, and
an optional power of ten (`IsNumeral`). The letters that are taken for a numeric literal are the
numerals and, signed or not, the words for infinity and for what is not a number (`IsNumberWord`),
which are no numerals.

* `isDecimal_iff`, `isExponent_iff` — the parts of a numeral;
* **`isLiteral_iff`** — what is taken for a numeric literal;
* `not_isNumeral_of_isNumberWord` — the words are no numerals.
-/

import Mathlib.Data.List.Basic
import SchemaFerry.Number.Literal

namespace SchemaFerry.Number

/-! ### The parts of a numeral -/

/-- All letters are decimal digits. -/
def AreDigits (letters : List Char) : Prop :=
  ∀ letter ∈ letters, letter.isDigit = true

/-- A sign, or none. -/
inductive IsSign : List Char → Prop where
  | none : IsSign []
  | plus : IsSign ['+']
  | minus : IsSign ['-']

/-- Digits, at least one, with a point or without. -/
inductive IsMantissa : List Char → Prop where
  | whole {digits : List Char} (present : digits ≠ []) (are : AreDigits digits) : IsMantissa digits
  | pointed {before behind : List Char} (present : before ++ behind ≠ []) (front : AreDigits before)
      (back : AreDigits behind) : IsMantissa (before ++ '.' :: behind)

/-- A power of ten, or none. -/
inductive IsPower : List Char → Prop where
  | none : IsPower []
  | some {mark : Char} {sign digits : List Char} (marked : mark = 'e' ∨ mark = 'E')
      (signed : IsSign sign) (present : digits ≠ []) (are : AreDigits digits) :
      IsPower (mark :: (sign ++ digits))

/-- **A numeral.** -/
inductive IsNumeral : List Char → Prop where
  | intro {sign mantissa power : List Char} (signed : IsSign sign) (digits : IsMantissa mantissa)
      (scaled : IsPower power) : IsNumeral (sign ++ (mantissa ++ power))

/-- A word for infinity or for what is not a number, in letters of either case and with a sign or
without. -/
def IsNumberWord (letters : List Char) : Prop :=
  ∃ sign word, IsSign sign ∧ letters = sign ++ word ∧
    word.map Char.toLower ∈ ["inf".toList, "infinity".toList, "nan".toList]

/-! ### Signs -/

/-- What is left without a sign stands behind a sign, or there is none. -/
theorem exists_sign (letters : List Char) :
    ∃ sign, IsSign sign ∧ letters = sign ++ withoutSign letters := by
  unfold withoutSign
  split
  · exact ⟨_, .plus, rfl⟩
  · exact ⟨_, .minus, rfl⟩
  · exact ⟨_, .none, rfl⟩

/-- A sign is taken off letters that do not start with another one. -/
theorem withoutSign_append {sign rest : List Char} (signed : IsSign sign)
    (plain : rest.head? ≠ some '+' ∧ rest.head? ≠ some '-') :
    withoutSign (sign ++ rest) = rest := by
  cases signed with
  | plus => rfl
  | minus => rfl
  | none =>
    rw [List.nil_append]
    unfold withoutSign
    split
    · exact absurd rfl plain.1
    · exact absurd rfl plain.2
    · rfl

/-- Letters that start with a digit or a point do not start with a sign. -/
theorem head_ne_sign {first : Char} (plain : first.isDigit = true ∨ first = '.')
    (rest : List Char) :
    (first :: rest).head? ≠ some '+' ∧ (first :: rest).head? ≠ some '-' := by
  rw [List.head?_cons, ne_eq, ne_eq, Option.some.injEq, Option.some.injEq]
  constructor
  · rintro rfl
    revert plain
    decide
  · rintro rfl
    revert plain
    decide

/-! ### Digits -/

theorem isDigits_iff {letters : List Char} :
    isDigits letters = true ↔ letters ≠ [] ∧ AreDigits letters := by
  rw [isDigits, Bool.and_eq_true, List.all_eq_true, Bool.not_eq_true', List.isEmpty_eq_false_iff]
  rfl

/-- The digits at the front of letters, up to one that is none. -/
theorem takeWhile_isDigit {digits rest : List Char} (are : AreDigits digits)
    (stops : ∀ letter ∈ rest.head?, letter.isDigit = false) :
    (digits ++ rest).takeWhile Char.isDigit = digits ∧
      (digits ++ rest).dropWhile Char.isDigit = rest := by
  rw [List.takeWhile_append_of_pos are, List.dropWhile_append_of_pos are]
  cases rest with
  | nil => exact ⟨List.append_nil _, rfl⟩
  | cons letter rest =>
    have other : ¬letter.isDigit = true := by
      rw [stops letter rfl]
      exact Bool.false_ne_true
    rw [List.takeWhile_cons_of_neg other, List.dropWhile_cons_of_neg other]
    exact ⟨List.append_nil _, rfl⟩

theorem areDigits_takeWhile (letters : List Char) :
    AreDigits (letters.takeWhile Char.isDigit) :=
  List.all_eq_true.mp List.all_takeWhile

/-- A power of ten does not start with a digit. -/
theorem IsPower.stops {power : List Char} (scaled : IsPower power) :
    ∀ letter ∈ power.head?, letter.isDigit = false := by
  cases scaled with
  | none => exact fun _ member => absurd member (by simp)
  | some marked _ _ _ =>
    rintro letter ⟨⟩
    rcases marked with rfl | rfl <;> rfl

/-! ### Numerals -/

/-- **Nothing, or a power of ten.** -/
theorem isExponent_iff {letters : List Char} : isExponent letters = true ↔ IsPower letters := by
  constructor
  · intro exponent
    cases letters with
    | nil => exact .none
    | cons mark rest =>
      rw [isExponent, Bool.and_eq_true, Bool.or_eq_true, beq_iff_eq, beq_iff_eq,
        isDigits_iff] at exponent
      obtain ⟨marked, nonempty, are⟩ := exponent
      obtain ⟨sign, signed, same⟩ := exists_sign rest
      rw [same]
      exact .some marked signed nonempty are
  · rintro (_ | ⟨marked, signed, nonempty, are⟩)
    · rfl
    · rename_i mark sign digits
      obtain ⟨first, rest, rfl⟩ := List.exists_cons_of_ne_nil nonempty
      rw [isExponent, Bool.and_eq_true, Bool.or_eq_true, beq_iff_eq, beq_iff_eq,
        withoutSign_append signed (head_ne_sign (.inl (are first List.mem_cons_self)) rest)]
      exact ⟨marked, isDigits_iff.mpr ⟨nonempty, are⟩⟩

/-- **Digits, with a point or without, and a power of ten or none.** -/
theorem isDecimal_iff {letters : List Char} :
    isDecimal letters = true ↔
      ∃ mantissa power, IsMantissa mantissa ∧ IsPower power ∧ letters = mantissa ++ power := by
  constructor
  · intro decimal
    have front := areDigits_takeWhile letters
    have parts := List.takeWhile_append_dropWhile (p := Char.isDigit) (l := letters)
    unfold isDecimal at decimal
    dsimp only at decimal
    split at decimal
    · rename_i rest shape
      rw [Bool.and_eq_true, Bool.not_eq_true', isExponent_iff, Bool.and_eq_false_iff,
        List.isEmpty_eq_false_iff, List.isEmpty_eq_false_iff] at decimal
      refine ⟨letters.takeWhile Char.isDigit ++ '.' :: rest.takeWhile Char.isDigit,
        rest.dropWhile Char.isDigit, .pointed ?_ front (areDigits_takeWhile rest), decimal.2, ?_⟩
      · rw [ne_eq, List.append_eq_nil_iff, not_and_or]
        exact decimal.1
      · rw [List.append_assoc, List.cons_append, List.takeWhile_append_dropWhile, ← shape, parts]
    · rw [Bool.and_eq_true, Bool.not_eq_true', isExponent_iff, List.isEmpty_eq_false_iff] at decimal
      exact ⟨_, _, .whole decimal.1 front, decimal.2, parts.symm⟩
  · rintro ⟨mantissa, power, digits, scaled, rfl⟩
    unfold isDecimal
    cases digits with
    | whole nonempty are =>
      obtain ⟨taken, left⟩ := takeWhile_isDigit are scaled.stops
      rw [taken, left]
      rw [← List.isEmpty_eq_false_iff] at nonempty
      -- The power of ten does not start with a point.
      cases scaled with
      | none =>
        show (!mantissa.isEmpty && true) = true
        rw [nonempty]
        rfl
      | some marked signed more others =>
        rename_i mark sign digits
        have exponent : (!mantissa.isEmpty && isExponent (mark :: (sign ++ digits))) = true := by
          rw [nonempty, isExponent_iff.mpr (.some marked signed more others)]
          rfl
        rcases marked with rfl | rfl
        · exact exponent
        · exact exponent
    | pointed nonempty front back =>
      rename_i before behind
      have stops : ∀ letter ∈ ('.' :: (behind ++ power)).head?, letter.isDigit = false := by
        rintro letter ⟨⟩
        rfl
      obtain ⟨taken, left⟩ := takeWhile_isDigit front stops
      obtain ⟨others, last⟩ := takeWhile_isDigit back scaled.stops
      rw [List.append_assoc, List.cons_append, taken, left]
      show (!(before.isEmpty && ((behind ++ power).takeWhile Char.isDigit).isEmpty) &&
        isExponent ((behind ++ power).dropWhile Char.isDigit)) = true
      rw [others, last, isExponent_iff.mpr scaled, Bool.and_true, Bool.not_eq_true',
        Bool.and_eq_false_iff, List.isEmpty_eq_false_iff, List.isEmpty_eq_false_iff]
      rwa [ne_eq, List.append_eq_nil_iff, not_and_or] at nonempty

/-- The digits of a numeral start with a digit or a point. -/
theorem IsMantissa.exists_first {mantissa : List Char} (digits : IsMantissa mantissa) :
    ∃ first rest, mantissa = first :: rest ∧ (first.isDigit = true ∨ first = '.') := by
  cases digits with
  | whole nonempty are =>
    obtain ⟨first, rest, rfl⟩ := List.exists_cons_of_ne_nil nonempty
    exact ⟨first, rest, rfl, .inl (are first List.mem_cons_self)⟩
  | pointed nonempty front back =>
    rename_i before behind
    cases before with
    | nil => exact ⟨_, _, rfl, .inr rfl⟩
    | cons first rest => exact ⟨first, _, rfl, .inl (front first List.mem_cons_self)⟩

/-- The letters without a sign are those of a numeral exactly if with it they are. -/
theorem isDecimal_withoutSign_iff {letters : List Char} :
    isDecimal (withoutSign letters) = true ↔ IsNumeral letters := by
  constructor
  · intro decimal
    obtain ⟨sign, signed, same⟩ := exists_sign letters
    obtain ⟨mantissa, power, digits, scaled, parts⟩ := isDecimal_iff.mp decimal
    rw [same, parts]
    exact .intro signed digits scaled
  · rintro ⟨signed, digits, scaled⟩
    obtain ⟨first, rest, rfl, plain⟩ := digits.exists_first
    rw [List.cons_append, withoutSign_append signed (head_ne_sign plain _)]
    exact isDecimal_iff.mpr ⟨_, _, digits, scaled, rfl⟩

/-- The words for infinity and for what is not a number start with a letter. -/
theorem exists_first_of_word {word : List Char}
    (named : word.map Char.toLower ∈ ["inf".toList, "infinity".toList, "nan".toList]) :
    ∃ first rest, word = first :: rest ∧ first.toLower ∈ ['i', 'n'] := by
  cases word with
  | nil => exact absurd named (by decide)
  | cons first rest =>
    refine ⟨first, rest, rfl, ?_⟩
    rw [List.map_cons] at named
    simp only [List.mem_cons, List.not_mem_nil, or_false] at named ⊢
    rcases named with same | same | same
    · exact .inl (List.cons_eq_cons.mp same).1
    · exact .inl (List.cons_eq_cons.mp same).1
    · exact .inr (List.cons_eq_cons.mp same).1

/-- A word has no sign of its own. -/
theorem withoutSign_append_word {sign word : List Char} (signed : IsSign sign)
    (named : word.map Char.toLower ∈ ["inf".toList, "infinity".toList, "nan".toList]) :
    withoutSign (sign ++ word) = word := by
  obtain ⟨first, rest, rfl, letter⟩ := exists_first_of_word named
  refine withoutSign_append signed ?_
  rw [List.head?_cons, ne_eq, ne_eq, Option.some.injEq, Option.some.injEq]
  constructor
  · rintro rfl
    exact absurd letter (by decide)
  · rintro rfl
    exact absurd letter (by decide)

/-- **The letters that are taken for a numeric literal** are the numerals and the words. -/
theorem isLiteral_iff {letters : List Char} :
    isLiteral letters = true ↔ IsNumeral letters ∨ IsNumberWord letters := by
  have words : (withoutSign letters).map Char.toLower ∈
      ["inf".toList, "infinity".toList, "nan".toList] ↔ IsNumberWord letters := by
    constructor
    · intro named
      obtain ⟨sign, signed, same⟩ := exists_sign letters
      exact ⟨sign, _, signed, same, named⟩
    · rintro ⟨sign, word, signed, rfl, named⟩
      rwa [withoutSign_append_word signed named]
  rw [← isDecimal_withoutSign_iff, ← words]
  simp only [isLiteral, Bool.or_eq_true, beq_iff_eq, List.mem_cons, List.not_mem_nil, or_false]
  tauto

/-- A digit and a point are their own small letters. -/
theorem toLower_eq_self_of_plain {first : Char} (plain : first.isDigit = true ∨ first = '.') :
    first.toLower = first := by
  rcases plain with digit | rfl
  · unfold Char.toLower
    rw [dif_neg]
    rintro ⟨least, _⟩
    rw [Char.isDigit, Bool.and_eq_true, decide_eq_true_eq, decide_eq_true_eq] at digit
    exact absurd (UInt32.le_trans least digit.2) (by decide)
  · rfl

/-- **The words are no numerals.** -/
theorem not_isNumeral_of_isNumberWord {letters : List Char} (named : IsNumberWord letters) :
    ¬IsNumeral letters := by
  intro numeral
  obtain ⟨sign, word, signed, rfl, named⟩ := named
  have decimal := isDecimal_withoutSign_iff.mpr numeral
  rw [withoutSign_append_word signed named] at decimal
  obtain ⟨first, rest, rfl, letter⟩ := exists_first_of_word named
  obtain ⟨mantissa, power, digits, _, parts⟩ := isDecimal_iff.mp decimal
  obtain ⟨start, _, rfl, plain⟩ := digits.exists_first
  obtain ⟨rfl, _⟩ := List.cons_eq_cons.mp parts
  rw [toLower_eq_self_of_plain plain] at letter
  simp only [List.mem_cons, List.not_mem_nil, or_false] at letter
  rcases letter with rfl | rfl
  · exact absurd plain (by decide)
  · exact absurd plain (by decide)

end SchemaFerry.Number
