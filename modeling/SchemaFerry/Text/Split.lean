/-
**Cutting texts.**

Cuts at a character: at every place (`splitAtEach`), at the first (`cutAtFirst?`) or at the last
(`cutAtLast?`). `holds` looks for a text inside another.

* `afterLead?_eq_some_iff`: a text with a lead is the lead and what follows it;
* `holds_iff`: what is held is a run of consecutive letters;
* `join_splitAtEach`: the pieces, with the mark between them, give the text back;
* `cutAtFirst?_eq_some`: a cut at the first mark gives the text back, and the part before the mark
  does not hold it.
-/

namespace SchemaFerry.Text

/-- The pieces between the marks; a text without a mark is one piece. -/
def splitAtEach (mark : Char) : List Char → List (List Char)
  | [] => [[]]
  | letter :: rest =>
    if letter = mark then
      [] :: splitAtEach mark rest
    else
      match splitAtEach mark rest with
      | [] => [[letter]]
      | piece :: pieces => (letter :: piece) :: pieces

/-- The parts before and after the first mark. -/
def cutAtFirst? (mark : Char) : List Char → Option (List Char × List Char)
  | [] => none
  | letter :: rest =>
    if letter = mark then some ([], rest)
    else (cutAtFirst? mark rest).map fun cut => (letter :: cut.1, cut.2)

/-- The parts before and after the last mark. -/
def cutAtLast? (mark : Char) (letters : List Char) : Option (List Char × List Char) :=
  (cutAtFirst? mark letters.reverse).map fun cut => (cut.2.reverse, cut.1.reverse)

/-- What follows a lead at the front of a text. -/
def afterLead? (lead letters : List Char) : Option (List Char) :=
  if lead.isPrefixOf letters then some (letters.drop lead.length) else none

/-- Whether a text holds another as a run of consecutive letters. -/
def holds (part : List Char) : List Char → Bool
  | [] => part.isEmpty
  | letter :: rest => part.isPrefixOf (letter :: rest) || holds part rest

/-- Whether a text holds another. -/
def contains (text part : String) : Bool :=
  holds part.toList text.toList

/-- The pieces of a text between the marks. -/
def pieces (mark : Char) (text : String) : List String :=
  (splitAtEach mark text.toList).map String.ofList

/-! ### Lemmas -/

/-- A text with a lead is the lead and what follows it. -/
theorem afterLead?_eq_some {lead letters rest : List Char}
    (found : afterLead? lead letters = some rest) : letters = lead ++ rest := by
  unfold afterLead? at found
  split at found
  · next front =>
    obtain ⟨tail, rfl⟩ := List.isPrefixOf_iff_prefix.1 front
    simp_all
  · simp at found

/-- A text has a lead exactly if it is the lead and what follows it. -/
theorem afterLead?_eq_some_iff {lead letters rest : List Char} :
    afterLead? lead letters = some rest ↔ letters = lead ++ rest := by
  constructor
  · exact afterLead?_eq_some
  · rintro rfl
    have front : lead.isPrefixOf (lead ++ rest) = true :=
      List.isPrefixOf_iff_prefix.mpr (List.prefix_append _ _)
    rw [afterLead?, if_pos front, List.drop_left]

/-- What is held is a run of consecutive letters. -/
theorem holds_iff {part letters : List Char} : holds part letters = true ↔ part <:+: letters := by
  induction letters with
  | nil => rw [holds, List.isEmpty_iff, List.infix_nil]
  | cons letter rest hypothesis =>
    rw [holds, Bool.or_eq_true, List.isPrefixOf_iff_prefix, hypothesis, List.infix_cons_iff]

/-- There is one piece more than there are marks. -/
theorem length_splitAtEach (mark : Char) (letters : List Char) :
    (splitAtEach mark letters).length = letters.count mark + 1 := by
  induction letters with
  | nil => rfl
  | cons letter rest hypothesis =>
    unfold splitAtEach
    split
    · next same => rw [same, List.count_cons_self, List.length_cons, hypothesis]
    · next other =>
      rw [List.count_cons_of_ne other, ← hypothesis]
      split
      · next shape => rw [shape] at hypothesis; cases hypothesis
      · next shape => rw [shape, List.length_cons, List.length_cons]

/-- There is always at least one piece. -/
theorem splitAtEach_ne_nil (mark : Char) (letters : List Char) : splitAtEach mark letters ≠ [] := by
  induction letters with
  | nil => simp [splitAtEach]
  | cons letter rest hypothesis =>
    unfold splitAtEach
    split
    · simp
    · split <;> simp_all

/-- The pieces, with the mark between them, give the text back. -/
theorem join_splitAtEach (mark : Char) (letters : List Char) :
    [mark].intercalate (splitAtEach mark letters) = letters := by
  induction letters with
  | nil => simp [splitAtEach, List.intercalate]
  | cons letter rest hypothesis =>
    unfold splitAtEach
    split
    · next same =>
      cases shape : splitAtEach mark rest with
      | nil => exact absurd shape (splitAtEach_ne_nil mark rest)
      | cons piece others =>
        rw [shape] at hypothesis
        simp_all [List.intercalate, List.intersperse]
    · split
      · next shape => exact absurd shape (splitAtEach_ne_nil mark rest)
      · next piece others shape =>
        rw [shape] at hypothesis
        cases others <;> simp_all [List.intercalate, List.intersperse]

/-- A cut at the first mark gives the text back, and the part before the mark does not hold it. -/
theorem cutAtFirst?_eq_some {mark : Char} {letters before after : List Char}
    (cut : cutAtFirst? mark letters = some (before, after)) :
    letters = before ++ mark :: after ∧ mark ∉ before := by
  induction letters generalizing before with
  | nil => simp [cutAtFirst?] at cut
  | cons letter rest hypothesis =>
    unfold cutAtFirst? at cut
    split at cut
    · simp_all
    · obtain ⟨⟨inner, tail⟩, found, same⟩ := Option.map_eq_some_iff.1 cut
      simp only [Prod.mk.injEq] at same
      obtain ⟨rfl, rfl⟩ := same
      obtain ⟨shape, absent⟩ := hypothesis found
      refine ⟨by simp [shape], ?_⟩
      simp only [List.mem_cons, not_or]
      exact ⟨fun same => by simp_all, absent⟩

end SchemaFerry.Text
