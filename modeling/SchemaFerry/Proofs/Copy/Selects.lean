/-
**What is kept of a select that replaces a table.**

Such a select is wrapped in brackets to be projected, so it must not end a statement. Blanks are
taken off at both ends, then the semicolons at the end, then the blanks before these, once each. So
what is left starts and ends with no blank and is a front of the text but for blanks and semicolons.
But if blanks stand between the semicolons at the end (`IsInterrupted`), those before the blanks
stay.

* `exists_isTakenOff` — what is taken off, from the first letter to the last;
* **`mappings_stripSelects`** — what the mappings of any listing keep of the texts that are set for
  the tables, and which texts count as none;
* `mappings_keep_semicolon` — a select that is left with a semicolon at its end.
-/

import Mathlib.Data.List.DropRight
import SchemaFerry.Proofs.Copy.Agreement

namespace SchemaFerry.Copy

open SchemaFerry.Text

/-! ### Letters at the end -/

/-- A letter that may stand behind a select: a semicolon or a blank. -/
def isEnding (letter : Char) : Bool :=
  letter == ';' || isBlank letter

/-- **The semicolons at the end of a text are interrupted**: one stands before blanks, and others
behind these. -/
def IsInterrupted (text : String) : Prop :=
  ∃ front blanks marks tail, text.toList = front ++ ';' :: (blanks ++ (marks ++ tail)) ∧
    (blanks ≠ [] ∧ ∀ letter ∈ blanks, isBlank letter = true) ∧
      (marks ≠ [] ∧ ∀ letter ∈ marks, letter = ';') ∧ ∀ letter ∈ tail, isBlank letter = true

/-- A text is what is left of it without the last letters of a class, and these. -/
theorem exists_dropped (drops : Char → Bool) (letters : List Char) :
    ∃ dropped, letters = withoutLast drops letters ++ dropped ∧
      ∀ letter ∈ dropped, drops letter = true :=
  ⟨letters.rtakeWhile drops, List.rdropWhile_append_rtakeWhile.symm,
    fun _ member => List.mem_rtakeWhile_imp member⟩

/-- What is left does not end with a letter of the class. -/
theorem withoutLast_last {drops : Char → Bool} {letters front : List Char} {last : Char}
    (shape : withoutLast drops letters = front ++ [last]) : drops last = false := by
  have present : letters.rdropWhile drops ≠ [] := by
    rw [show letters.rdropWhile drops = front ++ [last] from shape]
    exact List.append_ne_nil_of_right_ne_nil _ (List.cons_ne_nil _ _)
  have stays := List.rdropWhile_last_not drops letters present
  have final : (letters.rdropWhile drops).getLast present = last := by
    rw [List.getLast_eq_iff_getLast?_eq_some,
      show letters.rdropWhile drops = front ++ [last] from shape, List.getLast?_concat]
  rwa [final, Bool.not_eq_true] at stays

/-- The last letters of a class are taken off up to a letter that is not of it. -/
theorem withoutLast_append (drops : Char → Bool) {last : Char} (stays : drops last = false)
    (front : List Char) {back : List Char} (dropped : ∀ letter ∈ back, drops letter = true) :
    withoutLast drops (front ++ last :: back) = front ++ [last] := by
  have flipped : (front ++ last :: back).reverse =
      back.reverse ++ (last :: front.reverse) := by
    rw [List.reverse_append, List.reverse_cons, List.append_assoc, List.singleton_append]
  rw [withoutLast, flipped,
    List.dropWhile_append_of_pos fun letter member => dropped letter (List.mem_reverse.mp member),
    List.dropWhile_cons_of_neg (by rw [stays]; exact Bool.false_ne_true), List.reverse_cons,
    List.reverse_reverse]

/-- Blanks at the start of a text are taken off no further than to a letter that is none. -/
theorem trimStart_append_cons {letter : Char} (plain : isBlank letter = false)
    (front rest : List Char) :
    trimStart (front ++ letter :: rest) = trimStart front ++ letter :: rest := by
  have kept : trimStart (letter :: rest) = letter :: rest :=
    List.dropWhile_cons_of_neg (by rw [plain]; exact Bool.false_ne_true)
  rw [trimStart, List.dropWhile_append]
  split
  · next empty => rw [trimStart, List.isEmpty_iff.mp empty, List.nil_append, ← trimStart, kept]
  · rfl

/-! ### What is taken off a select -/

/-- **What is taken off a text**: blanks at its start (`lead`), and at its end blanks, semicolons
and blanks again (`blanks`, `marks`, `tail`).

* `unmarked` — blanks before semicolons are taken off only if there are semicolons;
* `interrupted` — a semicolon is left at the end only if there were blanks behind it. -/
structure IsTakenOff (text select : String) (lead blanks marks tail : List Char) : Prop where
  whole : text.toList = lead ++ (select.toList ++ (blanks ++ (marks ++ tail)))
  behind : trimStart text.toList = select.toList ++ (blanks ++ (marks ++ tail))
  areLead : ∀ letter ∈ lead, isBlank letter = true
  areBlanks : ∀ letter ∈ blanks, isBlank letter = true
  areMarks : ∀ letter ∈ marks, letter = ';'
  areTail : ∀ letter ∈ tail, isBlank letter = true
  unmarked : marks = [] → blanks = []
  interrupted : ∀ front, select.toList = front ++ [';'] → blanks ≠ []

theorem exists_isTakenOff (text : String) :
    ∃ lead blanks marks tail, IsTakenOff text (strippedSelect text) lead blanks marks tail := by
  obtain ⟨tail, outer, areTail⟩ := exists_dropped isBlank (trimStart text.toList)
  obtain ⟨marks, middle, areMarks⟩ := exists_dropped (· == ';') (trim text.toList)
  obtain ⟨blanks, inner, areBlanks⟩ :=
    exists_dropped isBlank (withoutLast (· == ';') (trim text.toList))
  have kept : (strippedSelect text).toList =
      withoutLast isBlank (withoutLast (· == ';') (trim text.toList)) := String.toList_ofList
  have behind : trimStart text.toList =
      (strippedSelect text).toList ++ (blanks ++ (marks ++ tail)) := by
    rw [kept, ← List.append_assoc, ← inner, ← List.append_assoc, ← middle]
    exact outer
  refine ⟨text.toList.takeWhile isBlank, blanks, marks, tail, ?_, behind,
    fun _ member => List.mem_takeWhile_imp member, areBlanks,
    fun letter member => eq_of_beq (areMarks letter member), areTail, ?_, ?_⟩
  · rw [← behind]
    exact List.takeWhile_append_dropWhile.symm
  · -- Without semicolons the text was trimmed to its end before.
    rintro rfl
    rcases List.eq_nil_or_concat blanks with empty | ⟨front, last, rfl⟩
    · exact empty
    · rw [List.append_nil] at middle
      rw [← middle, List.concat_eq_append, ← List.append_assoc] at inner
      have plain := trimEnd_last inner
      rw [areBlanks last (by simp)] at plain
      cases plain
  · rintro front shape rfl
    rw [List.append_nil, ← kept, shape] at inner
    exact absurd (withoutLast_last inner) (by decide)

/-- What is taken off behind a select is made of semicolons and blanks. -/
theorem IsTakenOff.isEnding {text select : String} {lead blanks marks tail : List Char}
    (taken : IsTakenOff text select lead blanks marks tail) :
    ∀ letter ∈ blanks ++ (marks ++ tail), isEnding letter = true := by
  intro letter member
  simp only [List.mem_append] at member
  rcases member with before | mark | after
  · rw [Copy.isEnding, taken.areBlanks letter before, Bool.or_true]
  · rw [taken.areMarks letter mark]
    rfl
  · rw [Copy.isEnding, taken.areTail letter after, Bool.or_true]

/-- Of interrupted semicolons, those behind the blanks are taken off, and then the blanks. -/
theorem strippedSelect_of_interrupted {text : String} {front blanks marks tail : List Char}
    (shape : text.toList = front ++ ';' :: (blanks ++ (marks ++ tail)))
    (someBlanks : blanks ≠ []) (blank : ∀ letter ∈ blanks, isBlank letter = true)
    (someMarks : marks ≠ []) (areMarks : ∀ letter ∈ marks, letter = ';')
    (tailBlank : ∀ letter ∈ tail, isBlank letter = true) :
    (strippedSelect text).toList = trimStart front ++ [';'] := by
  obtain ⟨blanks, last, rfl⟩ := (List.eq_nil_or_concat blanks).resolve_left someBlanks
  obtain ⟨marks, mark, rfl⟩ := (List.eq_nil_or_concat marks).resolve_left someMarks
  simp only [List.concat_eq_append, List.append_assoc, List.singleton_append] at *
  obtain rfl : mark = ';' := areMarks mark (by simp)
  have plain : isBlank ';' = false := by decide
  have other : (last == ';') = false := by
    refine beq_false_of_ne ?_
    rintro rfl
    exact absurd (blank ';' (by simp)) (by rw [plain]; exact Bool.false_ne_true)
  have trimmed : trim text.toList =
      (trimStart front ++ ';' :: blanks) ++ last :: (marks ++ [';']) := by
    have ends := withoutLast_append isBlank plain
      (trimStart front ++ ';' :: (blanks ++ last :: marks)) tailBlank
    rw [trim, shape, trimStart_append_cons plain]
    simp only [List.append_assoc, List.cons_append] at ends ⊢
    exact ends
  have unmarked : withoutLast (· == ';') (trim text.toList) =
      (trimStart front ++ ';' :: blanks) ++ [last] := by
    rw [trimmed]
    exact withoutLast_append (· == ';') other _ fun letter member =>
      beq_iff_eq.mpr (areMarks letter member)
  have ends := withoutLast_append isBlank plain (trimStart front) blank
  rw [strippedSelect, String.toList_ofList, unmarked, List.append_assoc, List.cons_append]
  exact ends

/-- **A semicolon is left at the end exactly if the semicolons at the end are interrupted.** -/
theorem strippedSelect_ended_iff (text : String) :
    (strippedSelect text).toList.getLast? = some ';' ↔ IsInterrupted text := by
  constructor
  · intro ended
    obtain ⟨lead, blanks, marks, tail, taken⟩ := exists_isTakenOff text
    obtain ⟨front, shape⟩ := List.getLast?_eq_some_iff.mp ended
    have parted := taken.interrupted front shape
    refine ⟨lead ++ front, blanks, marks, tail, ?_, ⟨parted, taken.areBlanks⟩,
      ⟨fun unmarked => parted (taken.unmarked unmarked), taken.areMarks⟩, taken.areTail⟩
    rw [taken.whole, shape, List.append_assoc, List.append_assoc, List.singleton_append]
  · rintro ⟨front, blanks, marks, tail, shape, ⟨someBlanks, areBlanks⟩, ⟨someMarks, areMarks⟩,
      areTail⟩
    rw [strippedSelect_of_interrupted shape someBlanks areBlanks someMarks areMarks areTail,
      List.getLast?_concat]

/-- **A text leaves nothing exactly if it is made of semicolons and blanks** and its semicolons are
not interrupted. -/
theorem strippedSelect_eq_empty_iff (text : String) :
    strippedSelect text = "" ↔
      (∀ letter ∈ text.toList, isEnding letter = true) ∧ ¬IsInterrupted text := by
  obtain ⟨lead, blanks, marks, tail, taken⟩ := exists_isTakenOff text
  have whole := taken.whole
  rw [← strippedSelect_ended_iff]
  constructor
  · intro empty
    rw [empty] at whole ⊢
    refine ⟨fun letter member => ?_, nofun⟩
    rw [whole, List.mem_append] at member
    rcases member with before | behind
    · rw [isEnding, taken.areLead letter before, Bool.or_true]
    · exact taken.isEnding letter behind
  · rintro ⟨ending, unended⟩
    by_contra filled
    rcases List.eq_nil_or_concat (strippedSelect text).toList with empty | ⟨front, last, shape⟩
    · exact filled (String.toList_injective empty)
    · -- Its last letter is no blank, so it is a semicolon.
      rw [List.concat_eq_append] at shape
      have member : last ∈ text.toList := by
        rw [whole, shape]
        simp
      have mark := ending last member
      rw [isEnding, strippedSelect_last shape, Bool.or_false, beq_iff_eq] at mark
      rw [shape, mark, List.getLast?_concat] at unended
      exact unended rfl

/-! ### Mappings -/

/-- **What a mapping keeps of the text that is set for its table.**

* `filled`, `start`, `finish` — it is not empty, and no blank stands at its ends;
* `isFront` — it is a front of the text behind the blanks at its start, and nothing but semicolons
  and blanks stood behind it;
* `ended_iff` — it ends with a semicolon exactly if the semicolons at the end of the text are
  interrupted. -/
structure IsStripped (configured select : String) : Prop where
  filled : select ≠ ""
  start : ∀ first rest, select.toList = first :: rest → isBlank first = false
  finish : ∀ front last, select.toList = front ++ [last] → isBlank last = false
  isFront : ∃ dropped, trimStart configured.toList = select.toList ++ dropped ∧
    ∀ letter ∈ dropped, isEnding letter = true
  ended_iff : select.toList.getLast? = some ';' ↔ IsInterrupted configured

/-- A text that leaves something is stripped to what it leaves. -/
theorem strippedSelect_isStripped {text : String} (filled : strippedSelect text ≠ "") :
    IsStripped text (strippedSelect text) := by
  obtain ⟨lead, blanks, marks, tail, taken⟩ := exists_isTakenOff text
  refine ⟨filled, fun first rest shape => ?_, fun front last => strippedSelect_last,
    ⟨_, taken.behind, taken.isEnding⟩, strippedSelect_ended_iff text⟩
  have behind := taken.behind
  rw [shape] at behind
  exact trimStart_head behind

theorem customSelect?_eq_some_iff {selects : List (String × String)} {table select : String} :
    customSelect? selects table = some select ↔
      ∃ configured, configuredSelect? selects table = some configured ∧
        strippedSelect configured = select ∧ select ≠ "" := by
  simp only [customSelect?, Option.filter_eq_some_iff, Option.map_eq_some_iff, Bool.not_eq_true',
    String.isEmpty_eq_false_iff]
  constructor
  · rintro ⟨⟨configured, set, stripped⟩, filled⟩
    exact ⟨configured, set, stripped, filled⟩
  · rintro ⟨configured, set, stripped, filled⟩
    exact ⟨⟨configured, set, stripped⟩, filled⟩

/-- **The mappings of a listing strip the selects that are set for its tables.**

* `kept` — a select is what is kept of the text that is set for the table, and it stands alone
  between the brackets of a projection;
* `none_iff` — a table has none exactly if no text is set for it, or one that is made of semicolons
  and blanks and whose semicolons are not interrupted. -/
structure StripSelects (tables excluded : List String) (selects : List (String × String)) :
    Prop where
  kept : ∀ mapping ∈ mappings tables excluded selects, ∀ select, mapping.select = some select →
    ∃ configured, configuredSelect? selects mapping.source = some configured ∧
      IsStripped configured select ∧ ∀ schema columns, ∃ front,
        projection (baseQuery schema mapping) columns = front ++ " FROM (" ++ select ++ ") AS src"
  none_iff : ∀ mapping ∈ mappings tables excluded selects, mapping.select = none ↔
    ∀ configured, configuredSelect? selects mapping.source = some configured →
      (∀ letter ∈ configured.toList, isEnding letter = true) ∧ ¬IsInterrupted configured

/-- **What is kept of the selects that are set for tables**, for every listing, whatever is left out
of it, and all selects. -/
theorem mappings_stripSelects (tables excluded : List String) (selects : List (String × String)) :
    StripSelects tables excluded selects where
  kept := by
    intro mapping member select replaced
    obtain ⟨_, _, own⟩ := mem_mappings_iff.mp member
    rw [replaced] at own
    obtain ⟨configured, set, rfl, filled⟩ := customSelect?_eq_some_iff.mp own.symm
    refine ⟨configured, set, strippedSelect_isStripped filled, fun schema columns => ?_⟩
    rw [baseQuery, replaced, projection]
    exact ⟨_, rfl⟩
  none_iff := by
    intro mapping member
    obtain ⟨_, _, own⟩ := mem_mappings_iff.mp member
    rw [own, Option.eq_none_iff_forall_ne_some]
    constructor
    · intro unset configured set
      rw [← strippedSelect_eq_empty_iff]
      by_contra filled
      exact unset _ (customSelect?_eq_some_iff.mpr ⟨configured, set, rfl, filled⟩)
    · intro ending select replaced
      obtain ⟨configured, set, rfl, filled⟩ := customSelect?_eq_some_iff.mp replaced
      exact filled ((strippedSelect_eq_empty_iff configured).mpr (ending configured set))

/-- **A select keeps a semicolon**, and semicolons with a blank between them count as a select. -/
theorem mappings_keep_semicolon :
    mappings ["orders", "users"] []
        [("orders", " ; ; "), ("users", "SELECT id, name FROM app.users; ;")] =
      [⟨"orders", "ORDERS", some ";"⟩,
        ⟨"users", "USERS", some "SELECT id, name FROM app.users;"⟩] := by
  decide +kernel

end SchemaFerry.Copy
