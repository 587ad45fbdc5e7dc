/-
**Stored names.**

A normalized name is made of letters that are their own capital forms and does not start with a
blank; it ends with one only where it was cut. So normalizing once more takes that blank off and
changes nothing else, and a numbered name stays as it is.

* **`IsStored.written_eq_iff`** — stored names are written alike exactly if they differ at most in
  blanks at their ends;
* `IsFolded.isStored_candidate` — what is tried for a request that is in capitals is a stored name;
* **`candidate_eq_of_written`** — two candidates for one name that are written alike are the same.
-/

import Mathlib
import SchemaFerry.Proofs.Identifier.Allocation
import SchemaFerry.Proofs.Text.Capitals

namespace SchemaFerry.Identifier

open SchemaFerry.Text

/-! ### Trimming -/

/-- The letters at the ends, if there are any, are not blank. -/
structure IsTrimmed (letters : List Char) : Prop where
  start : ∀ first rest, letters = first :: rest → isBlank first = false
  finish : ∀ front last, letters = front ++ [last] → isBlank last = false

theorem trimStart_eq_self {letters : List Char}
    (start : ∀ first rest, letters = first :: rest → isBlank first = false) :
    trimStart letters = letters := by
  cases letters with
  | nil => rfl
  | cons first rest =>
    have plain := start first rest rfl
    exact List.dropWhile_cons_of_neg (by rw [plain]; exact Bool.false_ne_true)

theorem trimEnd_eq_self {letters : List Char}
    (finish : ∀ front last, letters = front ++ [last] → isBlank last = false) :
    trimEnd letters = letters := by
  have back : trimStart letters.reverse = letters.reverse := by
    refine trimStart_eq_self fun last front shape => ?_
    refine finish front.reverse last ?_
    rw [← List.reverse_reverse letters, shape, List.reverse_cons]
  exact (congrArg List.reverse back).trans (List.reverse_reverse letters)

/-- Blanks behind a text that does not end with one are taken off. -/
theorem trimEnd_append {inner blanks : List Char} (blank : ∀ letter ∈ blanks, isBlank letter = true)
    (finish : ∀ front last, inner = front ++ [last] → isBlank last = false) :
    trimEnd (inner ++ blanks) = inner := by
  have mirrored : ∀ letter ∈ blanks.reverse, isBlank letter = true := fun letter member =>
    blank letter (List.mem_reverse.mp member)
  rw [trimEnd, List.reverse_append, List.dropWhile_append_of_pos mirrored]
  exact trimEnd_eq_self finish

/-- Whether a text is not empty and does not end with a blank. -/
def isSolid (text : String) : Bool :=
  text.toList.getLast?.any fun last => !isBlank last

theorem isSolid_iff {text : String} :
    isSolid text = true ↔ ∃ front last, text.toList = front ++ [last] ∧ isBlank last = false := by
  rw [isSolid, Option.any_eq_true]
  constructor
  · rintro ⟨last, found, plain⟩
    obtain ⟨front, shape⟩ := List.getLast?_eq_some_iff.mp found
    exact ⟨front, last, shape, (Bool.not_eq_true' _).mp plain⟩
  · rintro ⟨front, last, shape, plain⟩
    refine ⟨last, ?_, (Bool.not_eq_true' _).mpr plain⟩
    rw [shape, List.getLast?_concat]

/-- Blanks behind a solid text are taken off. -/
theorem trimEnd_append_solid {text : String} (solid : isSolid text = true) (front : List Char)
    {blanks : List Char} (blank : ∀ letter ∈ blanks, isBlank letter = true) :
    trimEnd (front ++ (text.toList ++ blanks)) = front ++ text.toList := by
  obtain ⟨body, last, shape, plain⟩ := isSolid_iff.mp solid
  rw [← List.append_assoc]
  refine trimEnd_append blank fun start final whole => ?_
  rw [shape, ← List.append_assoc] at whole
  rw [← (List.append_singleton_inj.mp whole).2]
  exact plain

/-- A text is what is left of it without the blanks at its end, and these. -/
theorem exists_blanks (letters : List Char) :
    ∃ blanks, letters = trimEnd letters ++ blanks ∧ ∀ letter ∈ blanks, isBlank letter = true := by
  refine ⟨(letters.reverse.takeWhile isBlank).reverse, ?_, fun letter member => ?_⟩
  · rw [trimEnd, ← List.reverse_append, List.takeWhile_append_dropWhile, List.reverse_reverse]
  · exact List.mem_takeWhile_imp (List.mem_reverse.mp member)

theorem trimEnd_isFront (letters : List Char) : trimEnd letters <+: letters := by
  obtain ⟨blanks, whole, _⟩ := exists_blanks letters
  exact ⟨blanks, whole.symm⟩

/-- A front that does not end with a blank ends before the blanks at the end. -/
theorem isFront_of_blanks {front whole blanks : List Char} (isFront : front <+: whole ++ blanks)
    (blank : ∀ letter ∈ blanks, isBlank letter = true)
    (finish : ∀ start last, front = start ++ [last] → isBlank last = false) : front <+: whole := by
  by_cases within : front.length ≤ whole.length
  · exact List.prefix_of_prefix_length_le isFront (List.prefix_append _ _) within
  · exfalso
    have reaches := List.prefix_of_prefix_length_le (List.prefix_append whole blanks) isFront
      (by omega)
    obtain ⟨more, rfl⟩ := reaches
    have inside := (List.prefix_append_right_inj whole).mp isFront
    rcases List.eq_nil_or_concat more with rfl | ⟨start, last, rfl⟩
    · rw [List.append_nil] at within
      exact within (Nat.le_refl _)
    · have plain := finish (whole ++ start) last (by rw [List.concat_eq_append, List.append_assoc])
      have blank := blank last (inside.subset (by
        rw [List.concat_eq_append]
        exact List.mem_append_right _ List.mem_cons_self))
      rw [plain] at blank
      cases blank

/-- A trimmed text is trimmed. -/
theorem isTrimmed_trim (letters : List Char) : IsTrimmed (trim letters) where
  start := by
    intro first rest shape
    obtain ⟨more, same⟩ := trimEnd_isFront (trimStart letters)
    rw [← trim, shape] at same
    exact trimStart_head same.symm
  finish := fun _ _ => trimEnd_last

/-- The capital form of a trimmed text is trimmed. -/
theorem IsTrimmed.upper {letters : List Char} (trimmed : IsTrimmed letters) :
    IsTrimmed (upper letters) where
  start := by
    intro image images shape
    cases letters with
    | nil => cases shape
    | cons first rest =>
      obtain ⟨head, tail, form⟩ := List.exists_cons_of_ne_nil (upperLetter_ne_nil first)
      rw [Text.upper, List.flatMap_cons, form] at shape
      have same : head = image := (List.cons.inj shape).1
      refine isBlank_of_mem_upperLetter (trimmed.start first rest rfl) ?_
      rw [form, same]
      exact List.mem_cons_self
  finish := by
    intro images image shape
    rcases List.eq_nil_or_concat letters with rfl | ⟨front, last, rfl⟩
    · exact absurd shape.symm (List.append_ne_nil_of_right_ne_nil _ (List.cons_ne_nil _ _))
    · rcases List.eq_nil_or_concat (upperLetter last) with empty | ⟨head, tail, form⟩
      · exact absurd empty (upperLetter_ne_nil last)
      · rw [List.concat_eq_append, upper_append] at shape
        have single : Text.upper [last] = head ++ [tail] := by
          rw [Text.upper, List.flatMap_singleton, form, List.concat_eq_append]
        rw [single, ← List.append_assoc] at shape
        have same : tail = image := (List.append_singleton_inj.mp shape).2
        refine isBlank_of_mem_upperLetter
          (trimmed.finish front last (List.concat_eq_append)) ?_
        rw [form, same, List.concat_eq_append]
        exact List.mem_append_right _ List.mem_cons_self

/-! ### Stored names -/

/-- **A name that is ready to be cut and stored**: its letters are their own capital forms, and it
does not start with a blank. -/
structure IsFolded (name : String) : Prop where
  fixed : ∀ letter ∈ name.toList, upperLetter letter = [letter]
  start : ∀ first rest, name.toList = first :: rest → isBlank first = false

/-- **A stored name**: folded and within the length limit. It may end with blanks. -/
structure IsStored (name : String) : Prop extends IsFolded name where
  short : name.toList.length ≤ maxLength

/-- A front of a folded name is folded. -/
theorem IsFolded.of_isFront {name front : String} (folded : IsFolded name)
    (isFront : front.toList <+: name.toList) : IsFolded front where
  fixed letter member := folded.fixed letter (isFront.subset member)
  start := by
    intro first rest shape
    obtain ⟨more, whole⟩ := isFront
    rw [shape] at whole
    exact folded.start first (rest ++ more) whole.symm

/-- A request for a folded name is cut and nothing else. -/
theorem IsFolded.truncate_uppercased {name : String} (folded : IsFolded name) :
    (truncate maxLength (uppercased name)).toList = name.toList.take maxLength := by
  rw [truncate, uppercased, String.toList_ofList, String.toList_ofList,
    upper_eq_self folded.fixed]

/-- What is granted for a folded name is stored. -/
theorem IsFolded.isStored_truncate {name : String} (folded : IsFolded name) :
    IsStored (truncate maxLength (uppercased name)) where
  toIsFolded := by
    refine folded.of_isFront ?_
    rw [folded.truncate_uppercased]
    exact List.take_prefix _ _
  short := truncate_length _ _

/-- A word in capitals is folded. -/
theorem isFolded_of_capitals {word : String} (capitals : ∀ letter ∈ word.toList, IsCapital letter) :
    IsFolded word where
  fixed letter member := (capitals letter member).fixed
  start first rest shape := by
    refine (capitals first ?_).nonblank
    rw [shape]
    exact List.mem_cons_self

/-- Two folded names one after the other are folded. -/
theorem IsFolded.append {first second : String} (one : IsFolded first) (other : IsFolded second) :
    IsFolded (first ++ second) where
  fixed letter member := by
    rw [String.toList_append, List.mem_append] at member
    exact member.elim (one.fixed letter) (other.fixed letter)
  start letter rest shape := by
    rw [String.toList_append] at shape
    cases front : first.toList with
    | nil =>
      rw [front, List.nil_append] at shape
      exact other.start letter rest shape
    | cons head tail =>
      rw [front, List.cons_append] at shape
      rw [← (List.cons.inj shape).1]
      exact one.start head tail front

theorem normalize_toList (name : String) :
    (normalize name).toList = (upper (trim name.toList)).take maxLength := by
  rw [normalize, truncate, uppercased, trimmed, String.toList_ofList, String.toList_ofList,
    String.toList_ofList]

/-- **A normalized name is stored.** -/
theorem isStored_normalize (name : String) : IsStored (normalize name) where
  fixed := by
    intro letter member
    rw [normalize_toList] at member
    exact upperLetter_of_mem_upper (List.mem_of_mem_take member)
  start := by
    intro first rest shape
    rw [normalize_toList] at shape
    obtain ⟨more, same⟩ := List.take_prefix maxLength (upper (trim name.toList))
    rw [shape] at same
    exact (isTrimmed_trim name.toList).upper.start first (rest ++ more) same.symm
  short := normalize_length name

/-- **Normalizing a stored name** takes the blanks at its end off and does nothing else. -/
theorem IsStored.normalize_toList {name : String} (stored : IsStored name) :
    (normalize name).toList = trimEnd name.toList := by
  have within := (trimEnd_isFront name.toList).sublist
  rw [Identifier.normalize_toList, trim, trimStart_eq_self stored.start, upper_eq_self,
    List.take_of_length_le (Nat.le_trans within.length_le stored.short)]
  exact fun letter member => stored.fixed letter (within.subset member)

/-- A stored name that does not end with a blank is normalized. -/
theorem IsStored.normalize_eq_self {name : String} (stored : IsStored name)
    (finish : ∀ front last, name.toList = front ++ [last] → isBlank last = false) :
    normalize name = name := by
  apply String.toList_injective
  rw [stored.normalize_toList, trimEnd_eq_self finish]

/-- **Stored names are written alike exactly if they differ at most in blanks at their ends.** -/
theorem IsStored.written_eq_iff {first second : String} (one : IsStored first)
    (other : IsStored second) :
    written first = written second ↔ trimEnd first.toList = trimEnd second.toList := by
  rw [written_eq_written_iff, ← one.normalize_toList, ← other.normalize_toList, String.toList_inj]

/-- The request for a stored name is that name. -/
theorem IsStored.truncate_uppercased_eq_self {name : String} (stored : IsStored name) :
    truncate maxLength (uppercased name) = name := by
  apply String.toList_injective
  rw [stored.truncate_uppercased, List.take_of_length_le stored.short]

/-! ### Numbered names -/

theorem isCapital_mark : IsCapital '_' := ⟨by decide, by decide⟩

/-- The first candidate for a normalized name is that name, and the others are numbered. -/
theorem candidate_normalize (name : String) (attempt : Nat) :
    candidate (normalize name) attempt =
      if attempt = 0 then normalize name else numbered (normalize name) (attempt + 1) := by
  have itself := (isStored_normalize name).truncate_uppercased_eq_self
  cases attempt with
  | zero => rw [candidate, itself, if_pos rfl]
  | succ attempt => rw [candidate, itself, if_neg (Nat.succ_ne_zero _)]

section Numbered

variable {number : Nat}

/-- The digits of a number with room for a mark before them. -/
theorem digits_length_lt (small : number < 10 ^ 29) :
    (Nat.toDigits 10 number).length < maxLength := by
  have digits := (Nat.length_toDigits_le_iff (by decide) (by decide)).mpr small
  exact Nat.lt_succ_of_le digits

/-- A number fills what the front of a name leaves. -/
theorem numbered_length (base : String) (small : number < 10 ^ 29) :
    (numbered base number).toList.length =
      min maxLength (base.toList.length + ((Nat.toDigits 10 number).length + 1)) := by
  have digits := digits_length_lt small
  rw [numbered_toList, List.length_append, frontFor, List.length_take, List.length_cons]
  omega

theorem isCapital_of_mem_digits {letter : Char} (member : letter ∈ Nat.toDigits 10 number) :
    IsCapital letter :=
  isCapital_of_isDigit (Nat.isDigit_of_mem_toDigits (by decide) (by decide) member)

/-- A name with a number at its end does not end with a blank. -/
theorem isBlank_of_numbered_eq_append {base : String} {front : List Char} {last : Char}
    (shape : (numbered base number).toList = front ++ [last]) : isBlank last = false := by
  rw [numbered_toList] at shape
  rcases List.eq_nil_or_concat (Nat.toDigits 10 number) with empty | ⟨digits, digit, all⟩
  · exact absurd empty Nat.toDigits_ne_nil
  · have member : digit ∈ Nat.toDigits 10 number := by
      rw [all, List.concat_eq_append]
      exact List.mem_append_right _ List.mem_cons_self
    rw [all, List.concat_eq_append, ← List.cons_append, ← List.append_assoc] at shape
    rw [← (List.append_singleton_inj.mp shape).2]
    exact (isCapital_of_mem_digits member).nonblank

/-- A stored name with a number at its end is stored. -/
theorem IsStored.numbered {name : String} (stored : IsStored name) (small : number < 10 ^ 29) :
    IsStored (numbered name number) where
  fixed := by
    intro letter member
    rw [numbered_toList] at member
    rcases List.mem_append.mp member with front | ending
    · exact stored.fixed letter (List.mem_of_mem_take front)
    · rcases List.mem_cons.mp ending with rfl | digit
      · exact isCapital_mark.fixed
      · exact (isCapital_of_mem_digits digit).fixed
  start := by
    intro first rest shape
    rw [numbered_toList] at shape
    cases front : frontFor name number with
    | nil =>
      rw [front] at shape
      rw [← (List.cons.inj shape).1]
      exact isCapital_mark.nonblank
    | cons letter more =>
      rw [front] at shape
      rw [← (List.cons.inj shape).1]
      obtain ⟨tail, whole⟩ := List.take_prefix
        (maxLength - ((Nat.toDigits 10 number).length + 1)) name.toList
      have start : name.toList = letter :: (more ++ tail) := by
        rw [← whole]
        exact congrArg (· ++ tail) front
      exact stored.start letter _ start
  short := by
    rw [numbered_length _ small]
    exact Nat.min_le_left _ _

/-- **A stored name with a number at its end is normalized.** -/
theorem IsStored.normalize_numbered {name : String} (stored : IsStored name)
    (small : number < 10 ^ 29) :
    normalize (Identifier.numbered name number) = Identifier.numbered name number :=
  (stored.numbered small).normalize_eq_self fun _ _ => isBlank_of_numbered_eq_append

end Numbered

/-- **The candidates for a folded name are stored**, as long as their numbers leave room. -/
theorem IsFolded.isStored_candidate {request : String} (folded : IsFolded request) {attempt : Nat}
    (few : attempt + 1 < 10 ^ 29) : IsStored (candidate request attempt) := by
  cases attempt with
  | zero => exact folded.isStored_truncate
  | succ attempt => exact folded.isStored_truncate.numbered few

/-! ### Candidates that are written alike -/

/-- A name that normalizing makes a numbered one was that before: taking blanks off makes a name
shorter, and a number makes it longer or fills it. -/
theorem normalize_eq_of_normalize_eq_numbered {name : String} {number : Nat}
    (small : number < 10 ^ 29)
    (same : normalize (normalize name) = numbered (normalize name) number) :
    normalize name = numbered (normalize name) number := by
  have letters := congrArg String.toList same
  rw [(isStored_normalize name).normalize_toList] at letters
  have within := (trimEnd_isFront (normalize name).toList).sublist
  by_cases whole : (trimEnd (normalize name).toList).length = (normalize name).toList.length
  · rw [within.eq_of_length whole] at letters
    exact String.toList_injective letters
  · have shorter := Nat.lt_of_le_of_ne within.length_le whole
    have longer := numbered_length (normalize name) small
    rw [← letters] at longer
    have most := normalize_length name
    omega

/-- **Candidates for one name that are written alike are the same name**, as long as their numbers
leave room in a name. -/
theorem candidate_eq_of_written {name : String} {first second : Nat}
    (firstFew : first + 1 < 10 ^ 29) (secondFew : second + 1 < 10 ^ 29)
    (same : written (candidate (normalize name) first) =
      written (candidate (normalize name) second)) :
    candidate (normalize name) first = candidate (normalize name) second := by
  have stored := isStored_normalize name
  have read := written_eq_written_iff.mp same
  rw [candidate_normalize, candidate_normalize] at read ⊢
  by_cases one : first = 0
  · by_cases other : second = 0
    · rw [if_pos one, if_pos other]
    · rw [if_pos one, if_neg other] at read ⊢
      rw [stored.normalize_numbered secondFew] at read
      exact normalize_eq_of_normalize_eq_numbered secondFew read
  · by_cases other : second = 0
    · rw [if_neg one, if_pos other] at read ⊢
      rw [stored.normalize_numbered firstFew] at read
      exact (normalize_eq_of_normalize_eq_numbered firstFew read.symm).symm
    · rw [if_neg one, if_neg other] at read ⊢
      rwa [stored.normalize_numbered firstFew, stored.normalize_numbered secondFew] at read

end SchemaFerry.Identifier
