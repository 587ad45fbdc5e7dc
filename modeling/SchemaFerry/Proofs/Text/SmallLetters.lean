/-
**Texts in small letters.**

In small letters a letter of ASCII is its own small letter and any other letter keeps a letter that
is not of ASCII, with one exception: the Kelvin sign becomes `k`. So a word of ASCII that has no `k`
is the small form of no other texts than those that differ from it in the case of `A` to `Z`.

* `toLower_mem_lower`, `exists_foreign_of_mem` — what becomes of the letters of a text;
* **`lower_eq_iff`** — the texts that a word of ASCII without `k` is the small form of;
* **`prefix_lower_iff`, `infix_lower_iff`** — the texts with such a word in their small form, if it
  has no `i` either, which the dotted capital one becomes.
-/

import SchemaFerry.Proofs.Text.Capitals

namespace SchemaFerry.Text

/-! ### Single letters -/

/-- The Kelvin sign, a capital form of `k`. -/
def kelvinRange : CaseRange :=
  ⟨0x212A, 0x212A, 1, 0x6B⟩

/-- The images of progressions outside ASCII are characters outside ASCII, but for the Kelvin
sign. -/
theorem lowerRanges_foreign : (lowerRanges.all fun range => Nat.blt range.last 0x80 ||
    (Nat.ble 0x80 range.image && (Nat.blt range.lastImage 0xD800 ||
      (Nat.blt 0xDFFF range.image && Nat.blt range.lastImage 0x110000))) ||
    decide (range = kelvinRange)) = true := by
  decide +kernel

/-- **The small form of a letter outside ASCII has a letter outside ASCII**, but for the Kelvin
sign. -/
theorem exists_foreign_lowerLetter {letter : Char} (foreign : 0x80 ≤ letter.toNat) :
    ∃ image ∈ lowerLetter letter, 0x80 ≤ image.toNat ∨ image = 'k' ∧ letter.toNat = 0x212A := by
  rw [lowerLetter, if_neg (Nat.not_lt.mpr foreign)]
  by_cases dotted : letter.toNat = 0x130
  · rw [if_pos dotted]
    exact ⟨Char.ofNat 0x307, List.mem_cons_of_mem _ List.mem_cons_self, .inl (by decide)⟩
  · rw [if_neg dotted]
    refine ⟨_, List.mem_singleton_self _, ?_⟩
    cases mapped : lowerRanges.findSome? fun range => range.map? letter.toNat with
    | none =>
      simp only [mapByRanges, mapped]
      exact .inl foreign
    | some image =>
      simp only [mapByRanges, mapped]
      obtain ⟨range, member, found⟩ := List.exists_of_findSome?_eq_some mapped
      obtain ⟨⟨least, most, _⟩, rfl⟩ := CaseRange.map?_eq_some_iff.mp found
      have checked := List.all_eq_true.mp lowerRanges_foreign range member
      simp only [CaseRange.lastImage, Bool.or_eq_true, Bool.and_eq_true, Nat.blt_eq, Nat.ble_eq,
        decide_eq_true_eq] at checked
      rcases checked with (within | ⟨outside, valid⟩) | rfl
      · omega
      · have character : isLetterCode (range.image + (letter.toNat - range.first)) = true := by
          simp only [isLetterCode, Bool.or_eq_true, Bool.and_eq_true, Nat.blt_eq]
          omega
        rw [toNat_ofNat character]
        exact .inl (Nat.le_trans outside (Nat.le_add_right _ _))
      · have kelvin : letter.toNat = 0x212A := Nat.le_antisymm most least
        rw [kelvin]
        exact .inr ⟨by decide, rfl⟩

theorem lowerLetter_ascii {letter : Char} (ascii : letter.toNat < 0x80) :
    lowerLetter letter = [letter.toLower] :=
  if_pos ascii

/-- A letter outside ASCII is none of `A` to `Z`. -/
theorem toLower_of_foreign {letter : Char} (foreign : 0x80 ≤ letter.toNat) :
    letter.toLower = letter := by
  unfold Char.toLower
  rw [dif_neg]
  rintro ⟨_, most⟩
  exact absurd (Nat.lt_of_le_of_lt (UInt32.le_iff_toNat_le.mp most) (by decide : _ < 0x80))
    (Nat.not_lt.mpr foreign)

/-- What holds of the first 128 characters holds of the letters of ASCII. -/
theorem of_ascii (holds : Char → Prop) (all : ∀ code < 0x80, holds (Char.ofNat code))
    {letter : Char} (ascii : letter.toNat < 0x80) : holds letter := by
  have single := all letter.toNat ascii
  rwa [Char.ofNat_toNat] at single

/-- The small form of a letter is blank exactly if the letter is. -/
theorem isBlank_toLower (letter : Char) : isBlank letter.toLower = isBlank letter := by
  by_cases ascii : letter.toNat < 0x80
  · exact of_ascii (fun letter => isBlank letter.toLower = isBlank letter) (by decide +kernel) ascii
  · rw [toLower_of_foreign (Nat.not_lt.mp ascii)]

/-! ### Texts -/

/-- The small letters of a text: those of its first letter, and those of the others. -/
theorem lowerAfter_cons (before : List Char) (letter : Char) (rest : List Char) :
    ∃ form, lowerAfter before (letter :: rest) = form ++ lowerAfter (letter :: before) rest ∧
      (letter.toNat < 0x80 → form = [letter.toLower]) ∧
      (0x80 ≤ letter.toNat →
        ∃ image ∈ form, 0x80 ≤ image.toNat ∨ image = 'k' ∧ letter.toNat = 0x212A) := by
  rw [lowerAfter]
  by_cases sigma : letter.toNat = 0x3A3
  · rw [if_pos sigma]
    refine ⟨_, rfl, fun ascii => absurd ascii (by omega), fun _ => ?_⟩
    split
    · exact ⟨_, List.mem_singleton_self _, .inl (by decide)⟩
    · exact ⟨_, List.mem_singleton_self _, .inl (by decide)⟩
  · rw [if_neg sigma]
    exact ⟨_, rfl, lowerLetter_ascii, exists_foreign_lowerLetter⟩

theorem lowerAfter_append {before front : List Char}
    (ascii : ∀ letter ∈ front, letter.toNat < 0x80) (rest : List Char) :
    ∃ more, lowerAfter before (front ++ rest) = front.map Char.toLower ++ more := by
  induction front generalizing before with
  | nil => exact ⟨_, rfl⟩
  | cons letter front ih =>
    rw [List.forall_mem_cons] at ascii
    obtain ⟨form, same, plain, _⟩ := lowerAfter_cons before letter (front ++ rest)
    obtain ⟨more, others⟩ := @ih (letter :: before) ascii.2
    exact ⟨more, by rw [List.cons_append, same, plain ascii.1, others]; rfl⟩

/-- The letters of ASCII at the start of a text are put in small letters one by one. -/
theorem lower_append {front : List Char} (ascii : ∀ letter ∈ front, letter.toNat < 0x80)
    (rest : List Char) : ∃ more, lower (front ++ rest) = front.map Char.toLower ++ more :=
  lowerAfter_append ascii rest

/-- The small form of a text starts with its first letter, if this is a small letter of ASCII. -/
theorem lower_cons {letter : Char} (ascii : letter.toNat < 0x80) (own : letter.toLower = letter)
    (rest : List Char) : ∃ more, lower (letter :: rest) = letter :: more := by
  obtain ⟨more, same⟩ := lower_append (List.forall_mem_singleton.mpr ascii) rest
  rw [List.map_singleton, own] at same
  exact ⟨more, same⟩

theorem toLower_mem_lowerAfter {before letters : List Char} {letter : Char}
    (member : letter ∈ letters) (ascii : letter.toNat < 0x80) :
    letter.toLower ∈ lowerAfter before letters := by
  induction letters generalizing before with
  | nil => cases member
  | cons first rest ih =>
    obtain ⟨form, same, plain, _⟩ := lowerAfter_cons before first rest
    rw [same, List.mem_append]
    rcases List.mem_cons.mp member with rfl | later
    · rw [plain ascii]
      exact .inl (List.mem_singleton_self _)
    · exact .inr (ih later)

/-- The small form of a letter of ASCII is in that of the text. -/
theorem toLower_mem_lower {letters : List Char} {letter : Char} (member : letter ∈ letters)
    (ascii : letter.toNat < 0x80) : letter.toLower ∈ lower letters :=
  toLower_mem_lowerAfter member ascii

theorem exists_foreign_lowerAfter {before letters : List Char} {letter : Char}
    (member : letter ∈ letters) (foreign : 0x80 ≤ letter.toNat) :
    ∃ image ∈ lowerAfter before letters,
      0x80 ≤ image.toNat ∨ image = 'k' ∧ letter.toNat = 0x212A := by
  induction letters generalizing before with
  | nil => cases member
  | cons first rest ih =>
    obtain ⟨form, same, _, other⟩ := lowerAfter_cons before first rest
    rw [same]
    rcases List.mem_cons.mp member with rfl | later
    · obtain ⟨image, formed, outside⟩ := other foreign
      exact ⟨image, List.mem_append_left _ formed, outside⟩
    · obtain ⟨image, formed, outside⟩ := ih later
      exact ⟨image, List.mem_append_right _ formed, outside⟩

/-- The small form of a text with a letter outside ASCII has one too, but for the Kelvin sign. -/
theorem exists_foreign_of_mem {letters : List Char} {letter : Char} (member : letter ∈ letters)
    (foreign : 0x80 ≤ letter.toNat) :
    ∃ image ∈ lower letters, 0x80 ≤ image.toNat ∨ image = 'k' ∧ letter.toNat = 0x212A :=
  exists_foreign_lowerAfter member foreign

theorem lowerAfter_ascii {before letters : List Char}
    (ascii : ∀ letter ∈ letters, letter.toNat < 0x80) :
    lowerAfter before letters = letters.map Char.toLower := by
  induction letters generalizing before with
  | nil => rfl
  | cons first rest ih =>
    rw [List.forall_mem_cons] at ascii
    obtain ⟨form, same, plain, _⟩ := lowerAfter_cons before first rest
    rw [same, plain ascii.1, ih ascii.2]
    rfl

/-- A text of ASCII is put in small letters one by one. -/
theorem lower_ascii {letters : List Char} (ascii : ∀ letter ∈ letters, letter.toNat < 0x80) :
    lower letters = letters.map Char.toLower :=
  lowerAfter_ascii ascii

/-- A word of ASCII without `k`. -/
def isAsciiWord (letters : List Char) : Bool :=
  letters.all fun letter => letter.toNat < 0x80 && letter != 'k'

theorem isAsciiWord_iff {letters : List Char} :
    isAsciiWord letters = true ↔ ∀ letter ∈ letters, letter.toNat < 0x80 ∧ letter ≠ 'k' := by
  simp only [isAsciiWord, List.all_eq_true, Bool.and_eq_true, decide_eq_true_eq, bne_iff_ne]

/-- Letters that differ from a word of ASCII at most in their case are of ASCII. -/
theorem ascii_of_map_toLower {letters word : List Char} (plain : isAsciiWord word = true)
    (same : letters.map Char.toLower = word) : ∀ letter ∈ letters, letter.toNat < 0x80 := by
  rw [isAsciiWord_iff] at plain
  subst same
  intro letter member
  refine Nat.not_le.mp fun foreign => ?_
  have image := (plain _ (List.mem_map_of_mem member)).1
  rw [toLower_of_foreign foreign] at image
  exact Nat.not_le.mpr image foreign

/-- **A word of ASCII without `k` is the small form of the texts that differ from it at most in the
case of `A` to `Z`**, and of no others. -/
theorem lower_eq_iff {letters word : List Char} (plain : isAsciiWord word = true) :
    lower letters = word ↔ letters.map Char.toLower = word := by
  constructor
  · rintro rfl
    rw [isAsciiWord_iff] at plain
    refine (lower_ascii fun letter member => Nat.not_le.mp fun foreign => ?_).symm
    obtain ⟨image, formed, outside | ⟨rfl, _⟩⟩ := exists_foreign_of_mem member foreign
    · exact Nat.not_le.mpr (plain image formed).1 outside
    · exact (plain _ formed).2 rfl
  · intro same
    rw [lower_ascii (ascii_of_map_toLower plain same), same]

/-! ### Words in a text -/

/-- A word of ASCII without `i` and `k`. -/
def isSought (letters : List Char) : Bool :=
  letters.all fun letter => letter.toNat < 0x80 && letter != 'i' && letter != 'k'

theorem not_mem_of_foreign {word : List Char} (sought : isSought word = true) {letter : Char}
    (foreign : 0x80 ≤ letter.toNat) : letter ∉ word := by
  intro member
  have plain := List.all_eq_true.mp sought letter member
  simp only [Bool.and_eq_true, decide_eq_true_eq] at plain
  exact Nat.not_lt.mpr foreign plain.1.1

/-- The small form of a letter outside ASCII shares no letter with a word that is sought. -/
theorem not_mem_of_lowerLetter {word : List Char} (sought : isSought word = true)
    {letter image : Char} (foreign : 0x80 ≤ letter.toNat) (formed : image ∈ lowerLetter letter) :
    image ∉ word := by
  have others : 'i' ∉ word ∧ 'k' ∉ word := by
    constructor <;> intro member <;> exact absurd (List.all_eq_true.mp sought _ member) (by decide)
  by_cases dotted : letter.toNat = 0x130
  · rw [lowerLetter, if_neg (Nat.not_lt.mpr foreign), if_pos dotted] at formed
    rcases List.mem_cons.mp formed with rfl | formed
    · exact others.1
    · rw [List.mem_singleton.mp formed]
      exact not_mem_of_foreign sought (by decide)
  · obtain ⟨other, found, outside⟩ := exists_foreign_lowerLetter foreign
    rw [lowerLetter, if_neg (Nat.not_lt.mpr foreign), if_neg dotted, List.mem_singleton]
      at formed found
    rw [← formed] at found
    subst found
    rcases outside with outside | ⟨rfl, _⟩
    · exact not_mem_of_foreign sought outside
    · exact others.2

/-- The small letters of a text whose first letter is not of ASCII. -/
theorem lowerAfter_foreign {word : List Char} (sought : isSought word = true) {letter : Char}
    (foreign : 0x80 ≤ letter.toNat) (before rest : List Char) :
    ∃ form, lowerAfter before (letter :: rest) = form ++ lowerAfter (letter :: before) rest ∧
      form ≠ [] ∧ ∀ image ∈ form, image ∉ word := by
  rw [lowerAfter]
  by_cases sigma : letter.toNat = 0x3A3
  · rw [if_pos sigma]
    refine ⟨_, rfl, ?_, ?_⟩
    · split <;> exact List.cons_ne_nil _ _
    · intro image formed
      split at formed <;> rw [List.mem_singleton.mp formed] <;>
        exact not_mem_of_foreign sought (by decide)
  · rw [if_neg sigma]
    refine ⟨_, rfl, ?_, fun _ => not_mem_of_lowerLetter sought foreign⟩
    obtain ⟨image, formed, _⟩ := exists_foreign_lowerLetter foreign
    exact List.ne_nil_of_mem formed

/-- A letter outside ASCII is its own small letter here, and not in a word that is sought. -/
theorem not_mem_of_toLower {word : List Char} (sought : isSought word = true) {letter : Char}
    (foreign : 0x80 ≤ letter.toNat) : ∀ image ∈ [letter.toLower], image ∉ word := by
  rw [List.forall_mem_singleton, toLower_of_foreign foreign]
  exact not_mem_of_foreign sought foreign

theorem prefix_append_iff_of_not_mem {word form : List Char} (present : form ≠ [])
    (apart : ∀ image ∈ form, image ∉ word) (rest : List Char) :
    word <+: form ++ rest ↔ word = [] := by
  cases word with
  | nil => simp
  | cons first word =>
    cases form with
    | nil => exact absurd rfl present
    | cons image form =>
      have other : first ≠ image := by
        rintro rfl
        exact apart first List.mem_cons_self List.mem_cons_self
      simp [List.cons_append, List.cons_prefix_cons, other]

theorem infix_append_iff_of_not_mem {word form : List Char} (present : word ≠ [])
    (apart : ∀ image ∈ form, image ∉ word) (rest : List Char) :
    word <:+: form ++ rest ↔ word <:+: rest := by
  induction form with
  | nil => rfl
  | cons image form ih =>
    rw [List.cons_append, List.infix_cons_iff, ih (List.forall_mem_cons.mp apart).2,
      ← List.cons_append, prefix_append_iff_of_not_mem (List.cons_ne_nil _ _) apart]
    exact or_iff_right present

theorem prefix_lowerAfter_iff {word : List Char} (sought : isSought word = true)
    {before letters : List Char} :
    word <+: lowerAfter before letters ↔ word <+: letters.map Char.toLower := by
  induction letters generalizing word before with
  | nil => rfl
  | cons letter rest ih =>
    rw [List.map_cons]
    by_cases ascii : letter.toNat < 0x80
    · obtain ⟨form, same, plain, _⟩ := lowerAfter_cons before letter rest
      rw [same, plain ascii, List.singleton_append]
      cases word with
      | nil => simp
      | cons first word =>
        rw [isSought, List.all_cons, Bool.and_eq_true] at sought
        rw [List.cons_prefix_cons, List.cons_prefix_cons, ih sought.2]
    · have foreign := Nat.not_lt.mp ascii
      obtain ⟨form, same, present, apart⟩ := lowerAfter_foreign sought foreign before rest
      rw [same, prefix_append_iff_of_not_mem present apart, ← List.singleton_append,
        prefix_append_iff_of_not_mem (List.cons_ne_nil _ _) (not_mem_of_toLower sought foreign)]

theorem infix_lowerAfter_iff {word : List Char} (sought : isSought word = true)
    {before letters : List Char} :
    word <:+: lowerAfter before letters ↔ word <:+: letters.map Char.toLower := by
  by_cases present : word = []
  · simp [present]
  induction letters generalizing before with
  | nil => rfl
  | cons letter rest ih =>
    by_cases ascii : letter.toNat < 0x80
    · obtain ⟨form, same, plain, _⟩ := lowerAfter_cons before letter rest
      have front := @prefix_lowerAfter_iff word sought before (letter :: rest)
      rw [same, plain ascii, List.singleton_append, List.map_cons] at front
      rw [same, plain ascii, List.singleton_append, List.map_cons, List.infix_cons_iff,
        List.infix_cons_iff, front, ih]
    · have foreign := Nat.not_lt.mp ascii
      obtain ⟨form, same, _, apart⟩ := lowerAfter_foreign sought foreign before rest
      rw [same, infix_append_iff_of_not_mem present apart, ih, List.map_cons,
        ← List.singleton_append,
        infix_append_iff_of_not_mem present (not_mem_of_toLower sought foreign)]

/-- **A word of ASCII without `i` and `k` starts the small form of a text** exactly if it starts the
text but for the case of `A` to `Z`. -/
theorem prefix_lower_iff {word letters : List Char} (sought : isSought word = true) :
    word <+: lower letters ↔ word <+: letters.map Char.toLower :=
  prefix_lowerAfter_iff sought

/-- **A word of ASCII without `i` and `k` is in the small form of a text** exactly if it is in the
text but for the case of `A` to `Z`. -/
theorem infix_lower_iff {word letters : List Char} (sought : isSought word = true) :
    word <:+: lower letters ↔ word <:+: letters.map Char.toLower :=
  infix_lowerAfter_iff sought

end SchemaFerry.Text
