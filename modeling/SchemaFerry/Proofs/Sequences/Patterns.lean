/-
**A pattern made for a start stands for what starts with it.**

A pattern is read in two steps. Its letters are read as pieces (`pieces?`): a backslash takes the mark
behind it for itself, and a pattern in which it has no mark behind it has no pieces. The pieces are
then fitted to a text (`fit`), where all lengths of a run of any letters are tried in turn. The two
steps together decide what a pattern stands for (`matches_iff`).

* `Reads.pieces?_append` — how a pattern is read is not changed by what stands behind it;
* `fit_letters_iff` — letters and then any letters fit the texts that start with the letters;
* **`startingWith_standsForStart`** — the pattern for a start, whatever marks the start holds.
-/

import SchemaFerry.Target.Memory
import Mathlib.Data.List.Infix

namespace SchemaFerry.Sequences

/-! ### Patterns in pieces -/

/-- A piece of a pattern: a letter that stands for itself, any one letter, or any letters. -/
inductive Piece where
  | letter (letter : Char)
  | anyLetter
  | anyLetters
  deriving Repr, DecidableEq

/-- The pieces of a pattern, unless a backslash has no mark behind it. -/
def pieces? : List Char → Option (List Piece)
  | [] => some []
  | letter :: rest =>
    if letter = '\\' then
      match rest with
      | [] => none
      | mark :: more => if isMark mark then (pieces? more).map (.letter mark :: ·) else none
    else if letter = '%' then (pieces? rest).map (.anyLetters :: ·)
    else if letter = '_' then (pieces? rest).map (.anyLetter :: ·)
    else (pieces? rest).map (.letter letter :: ·)

/-- Whether pieces fit a text. Any letters may be none, or one more and so on up to all that are
left. -/
def fit : List Piece → List Char → Bool
  | [], letters => letters.isEmpty
  | .letter letter :: pieces, letters =>
    match letters with
    | [] => false
    | first :: rest => letter == first && fit pieces rest
  | .anyLetter :: pieces, letters =>
    match letters with
    | [] => false
    | _ :: rest => fit pieces rest
  | .anyLetters :: pieces, letters => letters.tails.any (fit pieces)

section Reading

variable {rest : List Char} {pieces : List Piece}

theorem pieces?_percent (rest : List Char) :
    pieces? ('%' :: rest) = (pieces? rest).map (.anyLetters :: ·) := by
  simp [pieces?.eq_def ('%' :: rest)]

theorem pieces?_underscore (rest : List Char) :
    pieces? ('_' :: rest) = (pieces? rest).map (.anyLetter :: ·) := by
  simp [pieces?.eq_def ('_' :: rest)]

theorem pieces?_escaped {mark : Char} (marked : isMark mark = true) (rest : List Char) :
    pieces? ('\\' :: mark :: rest) = (pieces? rest).map (.letter mark :: ·) := by
  simp [pieces?.eq_def ('\\' :: mark :: rest), marked]

theorem pieces?_plain {letter : Char} (plain : isMark letter = false) (rest : List Char) :
    pieces? (letter :: rest) = (pieces? rest).map (.letter letter :: ·) := by
  simp only [isMark, Bool.or_eq_false_iff, beq_eq_false_iff_ne] at plain
  simp [pieces?.eq_def (letter :: rest), plain]

/-- A backslash has a mark behind it. -/
theorem exists_mark_of_pieces? (read : pieces? ('\\' :: rest) = some pieces) :
    ∃ mark more, rest = mark :: more ∧ isMark mark = true := by
  cases rest with
  | nil => cases read
  | cons mark more =>
    by_cases marked : isMark mark = true
    · exact ⟨mark, more, rfl, marked⟩
    · simp [pieces?.eq_def ('\\' :: mark :: more), marked] at read

/-- **How a pattern is read**, sign by sign. -/
inductive Reads : List Char → List Piece → Prop
  | nothing : Reads [] []
  | anyLetters {rest : List Char} {pieces : List Piece} (read : Reads rest pieces) :
    Reads ('%' :: rest) (.anyLetters :: pieces)
  | anyLetter {rest : List Char} {pieces : List Piece} (read : Reads rest pieces) :
    Reads ('_' :: rest) (.anyLetter :: pieces)
  | escaped {mark : Char} {rest : List Char} {pieces : List Piece} (marked : isMark mark = true)
    (read : Reads rest pieces) : Reads ('\\' :: mark :: rest) (.letter mark :: pieces)
  | plain {letter : Char} {rest : List Char} {pieces : List Piece} (plain : isMark letter = false)
    (read : Reads rest pieces) : Reads (letter :: rest) (.letter letter :: pieces)

/-- The pieces of a pattern are read sign by sign. -/
theorem reads_of_pieces? {pattern : List Char} (read : pieces? pattern = some pieces) :
    Reads pattern pieces := by
  induction pattern using pieces?.induct generalizing pieces with
  | case1 =>
    cases read
    exact .nothing
  | case2 =>
    obtain ⟨_, _, nothing, _⟩ := exists_mark_of_pieces? read
    cases nothing
  | case3 mark more marked ih =>
    rw [pieces?_escaped marked, Option.map_eq_some_iff] at read
    obtain ⟨others, found, rfl⟩ := read
    exact .escaped marked (ih found)
  | case4 mark more marked =>
    obtain ⟨_, _, same, other⟩ := exists_mark_of_pieces? read
    cases same
    exact absurd other marked
  | case5 rest _ ih =>
    rw [pieces?_percent, Option.map_eq_some_iff] at read
    obtain ⟨others, found, rfl⟩ := read
    exact .anyLetters (ih found)
  | case6 rest _ _ ih =>
    rw [pieces?_underscore, Option.map_eq_some_iff] at read
    obtain ⟨others, found, rfl⟩ := read
    exact .anyLetter (ih found)
  | case7 letter rest backslash percent underscore ih =>
    have other : isMark letter = false := by simp [isMark, backslash, percent, underscore]
    rw [pieces?_plain other, Option.map_eq_some_iff] at read
    obtain ⟨others, found, rfl⟩ := read
    exact .plain other (ih found)

/-- How a pattern is read is not changed by what stands behind it. -/
theorem Reads.pieces?_append {front : List Char} (read : Reads front pieces) (back : List Char) :
    pieces? (front ++ back) = (pieces? back).map (pieces ++ ·) := by
  have shift : ∀ (piece : Piece) (others : List Piece),
      ((pieces? back).map (others ++ ·)).map (piece :: ·) =
        (pieces? back).map ((piece :: others) ++ ·) := by
    intro piece others
    rw [Option.map_map]
    rfl
  induction read with
  | nothing => exact (Option.map_id' (x := pieces? back)).symm
  | anyLetters _ ih => rw [List.cons_append, pieces?_percent, ih, shift]
  | anyLetter _ ih => rw [List.cons_append, pieces?_underscore, ih, shift]
  | escaped marked _ ih =>
    rw [List.cons_append, List.cons_append, pieces?_escaped marked, ih, shift]
  | plain other _ ih => rw [List.cons_append, pieces?_plain other, ih, shift]

end Reading

/-! ### What pieces fit -/

section Fitting

variable {pattern letters : List Char} {pieces : List Piece}

theorem fit_anyLetters_iff :
    fit (.anyLetters :: pieces) letters = true ↔ ∃ rest, rest <:+ letters ∧ fit pieces rest = true := by
  simp only [fit, List.any_eq_true, List.mem_tails]

/-- A pattern that stands for a text has pieces that fit it. -/
theorem Matches.exists_pieces (stands : Matches pattern letters) :
    ∃ pieces, pieces? pattern = some pieces ∧ fit pieces letters = true := by
  induction stands with
  | done => exact ⟨[], rfl, rfl⟩
  | @skip pattern letters _ ih =>
    obtain ⟨pieces, read, fits⟩ := ih
    refine ⟨.anyLetters :: pieces, by rw [pieces?_percent, read, Option.map_some], ?_⟩
    exact fit_anyLetters_iff.mpr ⟨letters, List.suffix_refl letters, fits⟩
  | @more pattern letters letter _ ih =>
    obtain ⟨pieces, read, fits⟩ := ih
    refine ⟨pieces, read, ?_⟩
    rw [pieces?_percent, Option.map_eq_some_iff] at read
    obtain ⟨others, _, rfl⟩ := read
    obtain ⟨rest, ending, fits⟩ := fit_anyLetters_iff.mp fits
    exact fit_anyLetters_iff.mpr ⟨rest, ending.trans (List.suffix_cons letter letters), fits⟩
  | any letter _ ih =>
    obtain ⟨pieces, read, fits⟩ := ih
    exact ⟨.anyLetter :: pieces, by rw [pieces?_underscore, read, Option.map_some], fits⟩
  | escaped letter mark _ ih =>
    obtain ⟨pieces, read, fits⟩ := ih
    exact ⟨.letter letter :: pieces, by rw [pieces?_escaped mark, read, Option.map_some],
      by simp [fit, fits]⟩
  | plain letter other _ ih =>
    obtain ⟨pieces, read, fits⟩ := ih
    exact ⟨.letter letter :: pieces, by rw [pieces?_plain other, read, Option.map_some],
      by simp [fit, fits]⟩

/-- A sign for any letters takes as many as it is given. -/
theorem Matches.more_append (stands : Matches pattern letters) (front : List Char) :
    Matches ('%' :: pattern) (front ++ letters) := by
  induction front with
  | nil => exact .skip stands
  | cons letter front ih => exact .more letter ih

/-- A pattern stands for what its pieces fit. -/
theorem Reads.matches_of_fit (read : Reads pattern pieces) (fits : fit pieces letters = true) :
    Matches pattern letters := by
  induction read generalizing letters with
  | nothing =>
    obtain rfl : letters = [] := List.isEmpty_iff.mp fits
    exact .done
  | anyLetters _ ih =>
    obtain ⟨left, ⟨front, rfl⟩, fitting⟩ := fit_anyLetters_iff.mp fits
    exact (ih fitting).more_append front
  | anyLetter _ ih =>
    cases letters with
    | nil => cases fits
    | cons first letters => exact .any first (ih fits)
  | @escaped mark _ _ marked _ ih =>
    cases letters with
    | nil => cases fits
    | cons first letters =>
      rw [fit, Bool.and_eq_true, beq_iff_eq] at fits
      obtain ⟨rfl, fits⟩ := fits
      exact .escaped mark marked (ih fits)
  | @plain letter _ _ other _ ih =>
    cases letters with
    | nil => cases fits
    | cons first letters =>
      rw [fit, Bool.and_eq_true, beq_iff_eq] at fits
      obtain ⟨rfl, fits⟩ := fits
      exact .plain letter other (ih fits)

/-- **A pattern stands for exactly what its pieces fit**, and for nothing if it has none. -/
theorem matches_iff : Matches pattern letters ↔ (pieces? pattern).any (fit · letters) = true := by
  rw [Option.any_eq_true]
  exact ⟨Matches.exists_pieces, fun ⟨_, read, fits⟩ => (reads_of_pieces? read).matches_of_fit fits⟩

instance (pattern : List Char) : DecidablePred (Matches pattern) := fun _ =>
  decidable_of_iff _ matches_iff.symm

/-- **Letters and then any letters fit the texts that start with the letters.** -/
theorem fit_letters_iff (start : List Char) :
    fit (start.map .letter ++ [.anyLetters]) letters = true ↔ start <+: letters := by
  induction start generalizing letters with
  | nil =>
    refine iff_of_true (fit_anyLetters_iff.mpr ⟨[], List.nil_suffix, rfl⟩) List.nil_prefix
  | cons letter start ih =>
    cases letters with
    | nil => simp [fit]
    | cons first letters => simp [fit, ih, List.cons_prefix_cons]

end Fitting

/-! ### The pattern for a start -/

/-- The pieces of letters that are written to stand for themselves. -/
theorem pieces?_literally (letters : List Char) :
    pieces? (literally letters) = some (letters.map .letter) := by
  induction letters with
  | nil => rfl
  | cons letter letters ih =>
    by_cases marked : isMark letter = true
    · rw [literally, if_pos marked, pieces?_escaped marked, ih]
      rfl
    · rw [literally, if_neg marked, pieces?_plain (Bool.not_eq_true _ ▸ marked), ih]
      rfl

theorem startingWith_toList (start : String) :
    (startingWith start).toList = literally start.toList ++ ['%'] :=
  String.toList_ofList

/-- The start that a pattern was made for is read back from it. -/
theorem startOf_startingWith (start : String) : startOf (startingWith start) = start := by
  rw [startOf, startingWith_toList, List.getLast?_concat, if_pos rfl, List.dropLast_concat,
    unescaped_literally, String.ofList_toList]

/-- **A pattern stands for a start.**

* `matches_iff` — it stands for the texts with that start and for no others;
* `pieces` — it is read as the letters of the start, each for itself, and then any letters;
* `escapes` — behind a backslash, unless it is itself taken for a letter, stands a mark: never another
  letter, and never nothing;
* `lists` — a destination in memory finds by it the tables whose names it stands for. -/
structure StandsForStart (start pattern : String) : Prop where
  matches_iff : ∀ text : String, Matches pattern.toList text.toList ↔ start.toList <+: text.toList
  pieces : pieces? pattern.toList = some (start.toList.map .letter ++ [.anyLetters])
  escapes : ∀ front rest, pattern.toList = front ++ '\\' :: rest → (pieces? front).isSome →
    ∃ mark more, rest = mark :: more ∧ isMark mark = true
  lists : ∀ memory : Target.Memory, memory.tablesLike pattern =
    (memory.tables.map Prod.fst).filter fun name => Matches pattern.toList name.toList

/-- **The pattern for a start stands for it**, whatever marks the start holds: percent signs,
underscores, backslashes and any mix of them. -/
theorem startingWith_standsForStart (start : String) :
    StandsForStart start (startingWith start) := by
  have pieces : pieces? (startingWith start).toList =
      some (start.toList.map .letter ++ [.anyLetters]) := by
    rw [startingWith_toList, (reads_of_pieces? (pieces?_literally _)).pieces?_append,
      pieces?_percent]
    rfl
  have stands : ∀ text : String, Matches (startingWith start).toList text.toList ↔
      start.toList <+: text.toList := by
    intro text
    rw [Sequences.matches_iff, pieces, Option.any_some, fit_letters_iff]
  refine ⟨stands, pieces, ?_, ?_⟩
  · intro front rest shape whole
    obtain ⟨before, read⟩ := Option.isSome_iff_exists.mp whole
    rw [shape, (reads_of_pieces? read).pieces?_append, Option.map_eq_some_iff] at pieces
    obtain ⟨behind, read, _⟩ := pieces
    exact exists_mark_of_pieces? read
  · intro memory
    rw [Target.Memory.tablesLike, startOf_startingWith]
    refine List.filter_congr fun name _ => ?_
    rw [Bool.eq_iff_iff, List.isPrefixOf_iff_prefix, decide_eq_true_iff, stands]

example : Matches (startingWith "100%_").toList "100%_FINAL".toList ∧
    ¬ Matches (startingWith "100%_").toList "100 OF FINAL".toList := by
  decide +kernel

end SchemaFerry.Sequences
