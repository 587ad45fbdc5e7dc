/-
**Capital letters stay as they are.**

The tables of capital forms map letters to letters that they do not map any further, and none of
them to a blank. Of a progression of letters this is read off from its ends and its stride
(`CaseRange.isApart`), so that pairs of progressions are compared and not letters.

* **`upperLetter_cases`** — a letter is its own capital form, or all letters of its capital form are
  capitals that are not blank;
* `upper_upper` — a text in capitals has itself as its capital form.
-/

import SchemaFerry.Text.Blank
import SchemaFerry.Text.LetterCase

namespace SchemaFerry.Text

/-! ### Progressions that do not meet -/

/-- The progression of one letter that is mapped to itself. -/
def CaseRange.single (code : Nat) : CaseRange :=
  ⟨code, code, 1, code⟩

/-- The last image of a progression. -/
def CaseRange.lastImage (range : CaseRange) : Nat :=
  range.image + (range.last - range.first)

/-- Whether the images of a progression are seen not to be in another one: they end before it, they
start after it, or they fall into its gaps. -/
def CaseRange.isApart (range other : CaseRange) : Bool :=
  Nat.blt range.lastImage other.first || Nat.blt other.last range.image ||
    ((Nat.beq range.stride 2 || Nat.beq range.first range.last) && Nat.beq other.stride 2 &&
      Nat.beq ((range.image + other.first) % 2) 1)

theorem CaseRange.map?_eq_some_iff {range : CaseRange} {code image : Nat} :
    range.map? code = some image ↔
      (range.first ≤ code ∧ code ≤ range.last ∧ (code - range.first) % range.stride = 0) ∧
        range.image + (code - range.first) = image := by
  unfold map?
  split <;> simp_all

theorem CaseRange.map?_eq_none_iff {range : CaseRange} {code : Nat} :
    range.map? code = none ↔
      ¬ (range.first ≤ code ∧ code ≤ range.last ∧ (code - range.first) % range.stride = 0) := by
  unfold map?
  split <;> simp_all

/-- **An image is not in a progression** that the images are apart from. -/
theorem CaseRange.map?_eq_none_of_isApart {range other : CaseRange} {code image : Nat}
    (apart : range.isApart other = true) (mapped : range.map? code = some image) :
    other.map? image = none := by
  obtain ⟨⟨least, most, step⟩, rfl⟩ := map?_eq_some_iff.mp mapped
  rw [map?_eq_none_iff]
  rintro ⟨atLeast, atMost, alsoStep⟩
  simp only [isApart, lastImage, Bool.or_eq_true, Bool.and_eq_true, Nat.blt_eq, Nat.beq_eq] at apart
  rcases apart with (before | after) | ⟨⟨even | one, gaps⟩, odd⟩
  · omega
  · omega
  · rw [even] at step
    rw [gaps] at alsoStep
    omega
  · rw [gaps] at alsoStep
    omega

/-! ### What the tables say -/

/-- The blanks as progressions. -/
def blankRanges : List CaseRange :=
  [⟨9, 13, 1, 9⟩, .single 0x20, .single 0x85, .single 0xA0, .single 0x1680,
    ⟨0x2000, 0x200A, 1, 0x2000⟩, .single 0x2028, .single 0x2029, .single 0x202F, .single 0x205F,
    .single 0x3000]

/-- The letters that no capital form may have: those with another capital form, and blanks. -/
def uncapitalRanges : List CaseRange :=
  upperRanges ++ upperExpansions.map (fun entry => .single entry.1) ++ blankRanges

/-- Whether a code point is a character. -/
def isLetterCode (code : Nat) : Bool :=
  Nat.blt code 0xD800 || (Nat.blt 0xDFFF code && Nat.blt code 0x110000)

/-- The images of the progressions are characters. -/
theorem upperRanges_valid : (upperRanges.all fun range =>
    Nat.blt range.lastImage 0xD800 ||
      (Nat.blt 0xDFFF range.image && Nat.blt range.lastImage 0x110000)) = true := by
  decide +kernel

/-- The images of the progressions have no other capital form and are not blank. -/
theorem upperRanges_isApart :
    (upperRanges.all fun range => uncapitalRanges.all range.isApart) = true := by
  decide +kernel

/-- Longer capital forms are made of characters that have no other capital form and are not
blank. -/
theorem upperExpansions_isApart : (upperExpansions.all fun entry => !entry.2.isEmpty &&
    entry.2.all fun code =>
      isLetterCode code && uncapitalRanges.all (CaseRange.single code).isApart) = true := by
  decide +kernel

/-! ### Capital letters -/

/-- A capital letter: it is its own capital form and not blank. -/
structure IsCapital (letter : Char) : Prop where
  fixed : upperLetter letter = [letter]
  nonblank : isBlank letter = false

theorem toNat_ofNat {code : Nat} (valid : isLetterCode code = true) :
    (Char.ofNat code).toNat = code := by
  have character : code.isValidChar := by
    simp only [isLetterCode, Bool.or_eq_true, Bool.and_eq_true, Nat.blt_eq] at valid
    exact valid
  rw [Char.ofNat, dif_pos character]
  rfl

/-- The letters of ASCII that no progression maps are their own capital forms. -/
theorem toUpper_eq_self {letter : Char} (clear : ¬ (0x61 ≤ letter.toNat ∧ letter.toNat ≤ 0x7A)) :
    letter.toUpper = letter := by
  unfold Char.toUpper
  rw [dif_neg]
  rintro ⟨least, most⟩
  exact clear ⟨least, most⟩

/-- **A letter that no table holds is a capital letter.** -/
theorem isCapital_of_clear {letter : Char}
    (clear : ∀ other ∈ uncapitalRanges, other.map? letter.toNat = none) : IsCapital letter := by
  have ranges : ∀ range ∈ upperRanges, range.map? letter.toNat = none := fun range member =>
    clear range (List.mem_append_left _ (List.mem_append_left _ member))
  have entries : ∀ entry ∈ upperExpansions, letter.toNat ≠ entry.1 := by
    intro entry member same
    have outside := clear (.single entry.1) (List.mem_append_left _ (List.mem_append_right _
      (List.mem_map_of_mem member)))
    rw [CaseRange.map?_eq_none_iff] at outside
    exact outside ⟨Nat.le_of_eq same.symm, Nat.le_of_eq same, Nat.mod_one _⟩
  have blanks : ∀ range ∈ blankRanges, range.map? letter.toNat = none := fun range member =>
    clear range (List.mem_append_right _ member)
  constructor
  · unfold upperLetter
    by_cases small : letter.toNat < 0x80
    · rw [if_pos small, toUpper_eq_self]
      have first := ranges ⟨0x61, 0x7A, 1, 0x41⟩ List.mem_cons_self
      rw [CaseRange.map?_eq_none_iff] at first
      exact fun within => first ⟨within.1, within.2, Nat.mod_one _⟩
    · have missing : upperExpansions.lookup letter.toNat = none :=
        List.lookup_eq_none_iff.mpr fun entry member => bne_iff_ne.mpr (entries entry member)
      have unmapped : upperRanges.findSome? (fun range => range.map? letter.toNat) = none :=
        List.findSome?_eq_none_iff.mpr ranges
      rw [if_neg small, missing]
      simp only [mapByRanges, unmapped]
  · simp only [blankRanges, List.forall_mem_cons, CaseRange.map?_eq_none_iff, CaseRange.single,
      Nat.mod_one, and_true] at blanks
    simp only [isBlank, Bool.or_eq_false_iff, Bool.and_eq_false_iff, decide_eq_false_iff_not,
      beq_eq_false_iff_ne]
    omega

/-- A digit is a capital letter in this sense. -/
theorem isCapital_of_isDigit {letter : Char} (digit : letter.isDigit = true) :
    IsCapital letter := by
  have ends : 0x30 ≤ letter.toNat ∧ letter.toNat ≤ 0x39 := Char.isDigit_iff_toNat.mp digit
  constructor
  · rw [upperLetter_ascii (by omega), toUpper_eq_self (by omega)]
  · simp only [isBlank, Bool.or_eq_false_iff, Bool.and_eq_false_iff, decide_eq_false_iff_not,
      beq_eq_false_iff_ne]
    omega

/-- A letter of a progression has one capital letter. -/
theorem isCapital_of_map? {range : CaseRange} (member : range ∈ upperRanges) {code image : Nat}
    (mapped : range.map? code = some image) : IsCapital (Char.ofNat image) := by
  have valid : isLetterCode image = true := by
    have ends := List.all_eq_true.mp upperRanges_valid range member
    obtain ⟨⟨_, most, _⟩, rfl⟩ := CaseRange.map?_eq_some_iff.mp mapped
    simp only [isLetterCode, CaseRange.lastImage, Bool.or_eq_true, Bool.and_eq_true,
      Nat.blt_eq] at ends ⊢
    omega
  refine isCapital_of_clear fun other known => ?_
  rw [toNat_ofNat valid]
  have apart := List.all_eq_true.mp (List.all_eq_true.mp upperRanges_isApart range member)
  exact CaseRange.map?_eq_none_of_isApart (apart other known) mapped

/-- A longer capital form is made of capital letters. -/
theorem isCapital_of_mem_expansion {entry : Nat × List Nat} (member : entry ∈ upperExpansions) :
    entry.2 ≠ [] ∧ ∀ code ∈ entry.2, IsCapital (Char.ofNat code) := by
  have checked := List.all_eq_true.mp upperExpansions_isApart entry member
  rw [Bool.and_eq_true, Bool.not_eq_true', List.isEmpty_eq_false_iff] at checked
  refine ⟨checked.1, fun code formed => isCapital_of_clear fun other known => ?_⟩
  have apart := List.all_eq_true.mp checked.2 code formed
  rw [Bool.and_eq_true] at apart
  rw [toNat_ofNat apart.1]
  have itself : (CaseRange.single code).map? code = some code := by
    rw [CaseRange.map?_eq_some_iff]
    exact ⟨⟨Nat.le_refl _, Nat.le_refl _, Nat.mod_one _⟩, by simp [CaseRange.single]⟩
  exact CaseRange.map?_eq_none_of_isApart (List.all_eq_true.mp apart.2 other known) itself

/-- The letters `a` to `z` have the capital letters `A` to `Z`. -/
theorem toUpper_of_small {letter : Char} (least : 0x61 ≤ letter.toNat)
    (most : letter.toNat ≤ 0x7A) :
    letter.toUpper = Char.ofNat (0x41 + (letter.toNat - 0x61)) := by
  have all : ∀ step ≤ 0x19, (Char.ofNat (0x61 + step)).toUpper = Char.ofNat (0x41 + step) := by
    decide
  have same := all (letter.toNat - 0x61) (by omega)
  rwa [Nat.add_sub_cancel' least, Char.ofNat_toNat] at same

/-- **A letter is its own capital form, or its capital form is made of capital letters.** -/
theorem upperLetter_cases (letter : Char) :
    upperLetter letter = [letter] ∨
      upperLetter letter ≠ [] ∧ ∀ image ∈ upperLetter letter, IsCapital image := by
  unfold upperLetter
  by_cases ascii : letter.toNat < 0x80
  · rw [if_pos ascii]
    by_cases small : 0x61 ≤ letter.toNat ∧ letter.toNat ≤ 0x7A
    · rw [toUpper_of_small small.1 small.2]
      refine .inr ⟨List.cons_ne_nil _ _, List.forall_mem_singleton.mpr ?_⟩
      have first : (⟨0x61, 0x7A, 1, 0x41⟩ : CaseRange) ∈ upperRanges := List.mem_cons_self
      exact isCapital_of_map? first
        (CaseRange.map?_eq_some_iff.mpr ⟨⟨small.1, small.2, Nat.mod_one _⟩, rfl⟩)
    · rw [toUpper_eq_self small]
      exact .inl rfl
  · rw [if_neg ascii]
    cases listed : upperExpansions.lookup letter.toNat with
    | some codes =>
      obtain ⟨front, back, entries, _⟩ := List.lookup_eq_some_iff.mp listed
      have member : (letter.toNat, codes) ∈ upperExpansions := by
        rw [entries]
        exact List.mem_append_right _ List.mem_cons_self
      obtain ⟨present, capitals⟩ := isCapital_of_mem_expansion member
      exact .inr ⟨mt List.map_eq_nil_iff.mp present, List.forall_mem_map.mpr capitals⟩
    | none =>
      cases mapped : upperRanges.findSome? fun range => range.map? letter.toNat with
      | none =>
        left
        simp only [mapByRanges, mapped]
      | some image =>
        obtain ⟨range, member, found⟩ := List.exists_of_findSome?_eq_some mapped
        simp only [mapByRanges, mapped]
        exact .inr ⟨List.cons_ne_nil _ _,
          List.forall_mem_singleton.mpr (isCapital_of_map? member found)⟩

theorem upperLetter_ne_nil (letter : Char) : upperLetter letter ≠ [] := by
  rcases upperLetter_cases letter with same | ⟨present, _⟩
  · rw [same]
    exact List.cons_ne_nil _ _
  · exact present

/-- The letters of a capital form are their own capital forms. -/
theorem upperLetter_of_mem {letter image : Char} (formed : image ∈ upperLetter letter) :
    upperLetter image = [image] := by
  rcases upperLetter_cases letter with same | ⟨_, capitals⟩
  · rw [same, List.mem_singleton] at formed
    rw [formed, same]
  · exact (capitals image formed).fixed

/-- The capital form of a letter that is not blank has no blank. -/
theorem isBlank_of_mem_upperLetter {letter image : Char} (plain : isBlank letter = false)
    (formed : image ∈ upperLetter letter) : isBlank image = false := by
  rcases upperLetter_cases letter with same | ⟨_, capitals⟩
  · rw [same, List.mem_singleton] at formed
    rwa [formed]
  · exact (capitals image formed).nonblank

/-- A blank is its own capital form. -/
theorem upperLetter_of_isBlank {letter : Char} (blank : isBlank letter = true) :
    upperLetter letter = [letter] := by
  have all : ∀ code ∈ ([9, 10, 11, 12, 13, 0x20, 0x85, 0xA0, 0x1680, 0x2000, 0x2001, 0x2002,
      0x2003, 0x2004, 0x2005, 0x2006, 0x2007, 0x2008, 0x2009, 0x200A, 0x2028, 0x2029, 0x202F,
      0x205F, 0x3000] : List Nat), upperLetter (Char.ofNat code) = [Char.ofNat code] := by
    decide +kernel
  have fixed := all letter.toNat (by
    simp only [isBlank, Bool.or_eq_true, Bool.and_eq_true, decide_eq_true_eq, beq_iff_eq] at blank
    simp only [List.mem_cons, List.not_mem_nil, or_false]
    omega)
  rwa [Char.ofNat_toNat] at fixed

/-! ### Texts in capitals -/

/-- A text whose letters are their own capital forms is its own capital form. -/
theorem upper_eq_self {letters : List Char}
    (fixed : ∀ letter ∈ letters, upperLetter letter = [letter]) : upper letters = letters := by
  induction letters with
  | nil => rfl
  | cons letter rest ih =>
    rw [List.forall_mem_cons] at fixed
    rw [upper, List.flatMap_cons, fixed.1]
    exact congrArg _ (ih fixed.2)

theorem upperLetter_of_mem_upper {letters : List Char} {image : Char}
    (formed : image ∈ upper letters) : upperLetter image = [image] := by
  obtain ⟨letter, _, formed⟩ := List.mem_flatMap.mp formed
  exact upperLetter_of_mem formed

/-- **Capitals stay as they are.** -/
theorem upper_upper (letters : List Char) : upper (upper letters) = upper letters :=
  upper_eq_self fun _ => upperLetter_of_mem_upper

end SchemaFerry.Text
