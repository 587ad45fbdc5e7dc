/-
**Positions of a copy.**

The columns of a copy are listed three times: as what is read from the source, as the names that
are written to, and as the placeholders of the values. Names may hold commas, quotes and brackets,
so a list is read as a database reads it (`readItems`): a comma separates two items only outside all
quotes and brackets, and these are closed at the end, so that the statement goes on outside them.

* `readItems_intercalate` — texts that are closed and have no comma outside are read back from the
  list of them;
* **`columns_areAligned`** — at each position the three lists speak of the column at that position
  and of no other, and a row that is read has there a value in the form of its kind.
-/

import Mathlib.Data.List.Basic
import SchemaFerry.Copy.Query
import SchemaFerry.Copy.Wire
import SchemaFerry.Proofs.Copy.Portal
import SchemaFerry.Proofs.Identifier.Spelling
import SchemaFerry.Proofs.Identifier.Stored
import SchemaFerry.Proofs.Script.Closed

namespace SchemaFerry.Copy

open SchemaFerry.Identifier SchemaFerry.Text

/-! ### Reading a list -/

/-- Where a reader of a list stands: how many brackets are open, and the quote it is inside of. -/
structure Place where
  depth : Nat
  mark : Option Char
  deriving Repr, DecidableEq

namespace Place

/-- Outside all quotes and brackets. -/
def outside : Place := ⟨0, none⟩

/-- Where a reader stands behind a letter; a bracket that was not opened cannot be closed. A quote
that stands twice closes a text and opens it again. -/
def next? (place : Place) (letter : Char) : Option Place :=
  match place.mark with
  | some mark => some (if letter = mark then ⟨place.depth, none⟩ else place)
  | none =>
    if letter = '"' ∨ letter = '\'' then some ⟨place.depth, some letter⟩
    else if letter = '(' then some ⟨place.depth + 1, none⟩
    else if letter = ')' then
      if place.depth = 0 then none else some ⟨place.depth - 1, none⟩
    else some place

/-- Whether a letter separates two items. -/
def separates (place : Place) (letter : Char) : Bool :=
  place = outside ∧ letter = ','

end Place

/-- Where a reader stands behind letters, none of which separates items. -/
def passes? (place : Place) : List Char → Option Place
  | [] => some place
  | letter :: rest =>
    if place.separates letter then none else (place.next? letter).bind (passes? · rest)

/-- The items of a list, unless a quote or a bracket stays open. -/
def items? (place : Place) : List Char → Option (List (List Char))
  | [] => if place = .outside then some [[]] else none
  | letter :: rest =>
    if place.separates letter then (items? .outside rest).map ([] :: ·)
    else (place.next? letter).bind fun next =>
      (items? next rest).map (List.modifyHead (letter :: ·))

/-- The items of a list without the blanks before them. -/
def readItems (list : String) : Option (List String) :=
  if list = "" then some []
  else (items? .outside list.toList).map (List.map fun item => String.ofList (trimStart item))

/-! ### Items -/

theorem passes?_append {place : Place} (first second : List Char) :
    passes? place (first ++ second) = (passes? place first).bind (passes? · second) := by
  induction first generalizing place with
  | nil => rfl
  | cons letter rest ih =>
    rw [List.cons_append, passes?, passes?]
    cases place.separates letter with
    | true => rfl
    | false =>
      cases place.next? letter with
      | none => rfl
      | some next => exact ih

/-- Letters that are passed belong to the first item behind them. -/
theorem items?_append {place next : Place} {front : List Char}
    (passed : passes? place front = some next) (rest : List Char) :
    items? place (front ++ rest) = (items? next rest).map (List.modifyHead (front ++ ·)) := by
  induction front generalizing place with
  | nil =>
    obtain rfl := Option.some.inj passed
    rw [List.nil_append]
    cases items? place rest with
    | none => rfl
    | some items => cases items <;> rfl
  | cons letter front ih =>
    rw [passes?] at passed
    rw [List.cons_append, items?]
    cases apart : place.separates letter with
    | true =>
      rw [apart] at passed
      cases passed
    | false =>
      rw [apart] at passed
      obtain ⟨between, step, passed⟩ := Option.bind_eq_some_iff.mp passed
      rw [step]
      show (items? between (front ++ rest)).map _ = _
      rw [ih passed, Option.map_map]
      congr 1
      funext items
      cases items <;> rfl

/-- **An item**: outside all quotes and brackets at its end, and without a comma there. -/
def IsItem (letters : List Char) : Prop :=
  passes? .outside letters = some .outside

/-- An item ends at the first comma outside. -/
theorem items?_first {item : List Char} (closed : IsItem item) (rest : List Char) :
    items? .outside (item ++ ',' :: rest) = (items? .outside rest).map (item :: ·) := by
  rw [items?_append closed, items?]
  show ((items? .outside rest).map _).map _ = _
  rw [Option.map_map]
  congr 1
  funext items
  show (item ++ []) :: items = _
  rw [List.append_nil]

/-- An item is the only one of its list. -/
theorem items?_single {item : List Char} (closed : IsItem item) :
    items? .outside item = some [item] := by
  have read := items?_append closed []
  rw [List.append_nil] at read
  rw [read]
  show some [item ++ []] = _
  rw [List.append_nil]

/-- **The items of a list of items** are these, each but the first with the blank before it. -/
theorem items?_intercalate {first : List Char} {others : List (List Char)}
    (closed : ∀ item ∈ first :: others, IsItem item) :
    items? .outside ([',', ' '].intercalate (first :: others)) =
      some (first :: others.map (' ' :: ·)) := by
  induction others generalizing first with
  | nil =>
    rw [List.intercalate_singleton, items?_single (closed first List.mem_cons_self)]
    rfl
  | cons second others ih =>
    have behind := ih fun item member => closed item (List.mem_cons_of_mem _ member)
    have blank : passes? .outside [' '] = some .outside := by decide
    have spaced := items?_append blank ([',', ' '].intercalate (second :: others))
    rw [behind] at spaced
    rw [List.intercalate_cons_cons, List.append_assoc, List.cons_append,
      items?_first (closed first List.mem_cons_self), spaced]
    rfl

/-- **A text that can be listed**: it is an item and starts with a letter that is not blank. -/
structure IsListable (text : String) : Prop where
  closed : IsItem text.toList
  start : ∃ first rest, text.toList = first :: rest ∧ isBlank first = false

/-- **Texts that can be listed are read back from their list.** -/
theorem readItems_intercalate {texts : List String}
    (listable : ∀ text ∈ texts, IsListable text) :
    readItems (", ".intercalate texts) = some texts := by
  cases texts with
  | nil => rfl
  | cons first others =>
    have letters : (", ".intercalate (first :: others)).toList =
        [',', ' '].intercalate (first.toList :: others.map String.toList) := by
      rw [String.toList_intercalate, List.map_cons]
      rfl
    have present : ", ".intercalate (first :: others) ≠ "" := by
      obtain ⟨letter, rest, shape, _⟩ := (listable first List.mem_cons_self).start
      intro empty
      rw [empty, shape] at letters
      cases others <;> cases letters
    have closed : ∀ item ∈ first.toList :: others.map String.toList, IsItem item := by
      intro item member
      rw [← List.map_cons] at member
      obtain ⟨text, own, rfl⟩ := List.mem_map.mp member
      exact (listable text own).closed
    have own : ∀ text ∈ first :: others, trimStart text.toList = text.toList := by
      intro text member
      obtain ⟨letter, rest, shape, plain⟩ := (listable text member).start
      rw [shape, trimStart, List.dropWhile_cons_of_neg (by rw [plain]; exact Bool.false_ne_true)]
    rw [readItems, if_neg present, letters, items?_intercalate closed, Option.map_some,
      List.map_cons, List.map_map, List.map_map, own first List.mem_cons_self,
      String.ofList_toList]
    congr 2
    conv_rhs => rw [← List.map_id others]
    refine List.map_congr_left fun text member => ?_
    show String.ofList (trimStart text.toList) = text
    rw [own text (List.mem_cons_of_mem _ member), String.ofList_toList]

example : readItems ":1, NUMTODSINTERVAL(:2, 'SECOND')" =
    some [":1", "NUMTODSINTERVAL(:2, 'SECOND')"] := by
  decide +kernel

/-! ### What is listed -/

/-- The letters by which a list is read. -/
def listMarks : List Char := ['"', '\'', '(', ')', ',']

/-- Other letters are passed over. -/
theorem passes?_of_plain {depth : Nat} {letters : List Char}
    (plain : ∀ letter ∈ letters, letter ∉ listMarks) :
    passes? ⟨depth, none⟩ letters = some ⟨depth, none⟩ := by
  induction letters with
  | nil => rfl
  | cons letter rest ih =>
    obtain ⟨own, others⟩ := List.forall_mem_cons.mp plain
    simp only [listMarks, List.mem_cons, List.not_mem_nil, or_false, not_or] at own
    obtain ⟨double, single, opening, closing, comma⟩ := own
    have step : Place.next? ⟨depth, none⟩ letter = some ⟨depth, none⟩ := by
      simp [Place.next?, double, single, opening, closing]
    have apart : Place.separates ⟨depth, none⟩ letter = false := by
      simp [Place.separates, comma]
    rw [passes?, apart, step]
    exact ih others

/-- Inside quotes every letter is passed over, and a quote that stands twice. -/
theorem passes?_doubled (depth : Nat) (letters : List Char) :
    passes? ⟨depth, some '"'⟩ (doubled '"' letters) = some ⟨depth, some '"'⟩ := by
  have inside : ∀ letter, Place.separates ⟨depth, some '"'⟩ letter = false := by
    intro letter
    simp [Place.separates, Place.outside]
  induction letters with
  | nil => rfl
  | cons letter rest ih =>
    rw [doubled]
    by_cases same : letter = '"'
    · have between : Place.separates ⟨depth, none⟩ '"' = false := by
        simp [Place.separates]
      rw [if_pos same, passes?, inside]
      show passes? ⟨depth, none⟩ ('"' :: doubled '"' rest) = _
      rw [passes?, between]
      exact ih
    · have step : Place.next? ⟨depth, some '"'⟩ letter = some ⟨depth, some '"'⟩ := by
        simp [Place.next?, same]
      rw [if_neg same, passes?, inside, step]
      exact ih

/-- **A name in quotes is passed over**, whatever letters it has. -/
theorem passes?_quote (depth : Nat) (letters : List Char) :
    passes? ⟨depth, none⟩ (quote '"' letters) = some ⟨depth, none⟩ := by
  have between : Place.separates ⟨depth, none⟩ '"' = false := by
    simp [Place.separates]
  rw [quote, passes?, between]
  show passes? ⟨depth, some '"'⟩ (doubled '"' letters ++ ['"']) = _
  rw [passes?_append, passes?_doubled]
  show passes? ⟨depth, some '"'⟩ ['"'] = _
  simp [passes?, Place.separates, Place.outside, Place.next?]

theorem sourceQuoted_toList (name : String) :
    (sourceQuoted name).toList = quote '"' name.toList := by
  rw [sourceQuoted, quoted, String.toList_ofList]

/-- The letters of a word are none by which a list is read. -/
theorem not_mem_listMarks_of_isWordLetter {letter : Char} (word : isWordLetter letter = true) :
    letter ∉ listMarks := by
  intro member
  simp only [listMarks, List.mem_cons, List.not_mem_nil, or_false] at member
  rcases member with rfl | rfl | rfl | rfl | rfl <;> cases word

/-- **A written name can be listed.** -/
theorem isListable_written (name : String) : IsListable (written name) := by
  rw [written, delimited]
  by_cases plain : isPlain (normalize name) = true
  · obtain ⟨first, rest, shape, capital, others, _⟩ := isPlain_iff.mp plain
    rw [if_pos plain]
    refine ⟨passes?_of_plain fun letter member => not_mem_listMarks_of_isWordLetter ?_,
      first, rest, shape, (isStored_normalize name).start first rest shape⟩
    rw [shape] at member
    rcases List.mem_cons.mp member with rfl | later
    · rw [isWordLetter, capital]
      rfl
    · exact others letter later
  · have letters : (quoted '"' (normalize name)).toList = quote '"' (normalize name).toList :=
      String.toList_ofList
    rw [if_neg plain]
    refine ⟨?_, _, _, letters, rfl⟩
    rw [IsItem, letters]
    exact passes?_quote 0 _

/-- What stands before and behind the name of a column where it is read. -/
def readForms : List (String × String) :=
  [("", ""), ("", "::int8"), ("", "::float8"), ("", "::text"), ("", "::numeric::text"),
    ("EXTRACT(EPOCH FROM ", ")::float8")]

/-- A column is read by its name. -/
theorem exists_projection_eq (kind : Kind) (type : SourceType) (name : String) :
    ∃ form ∈ readForms,
      kind.projection type name = form.1 ++ ("src." ++ sourceQuoted name) ++ form.2 := by
  have cast : ∀ behind, ("", behind) ∈ readForms → ∃ form ∈ readForms,
      "src." ++ sourceQuoted name ++ behind =
        form.1 ++ ("src." ++ sourceQuoted name) ++ form.2 := by
    intro behind member
    refine ⟨("", behind), member, ?_⟩
    rw [String.empty_append]
  have bare : ∃ form ∈ readForms,
      "src." ++ sourceQuoted name = form.1 ++ ("src." ++ sourceQuoted name) ++ form.2 := by
    have plain := cast "" (by decide)
    rwa [String.append_empty] at plain
  unfold Kind.projection
  dsimp only
  cases kind with
  | integer =>
    dsimp only
    split
    · exact bare
    · exact cast "::int8" (by decide)
  | float =>
    dsimp only
    split
    · exact bare
    · exact cast "::float8" (by decide)
  | interval =>
    refine ⟨("EXTRACT(EPOCH FROM ", ")::float8"), by decide, rfl⟩
  | cast | unhandled =>
    dsimp only
    split
    · exact cast "::numeric::text" (by decide)
    · exact cast "::text" (by decide)
  | boolean | text | uuid | json | bytes | date | timestamp | timestampWithZone => exact bare

/-- What stands around the names of a column is closed with them, and holds no quotes. -/
theorem readForms_closed {form : String × String} (member : form ∈ readForms) :
    '"' ∉ form.1.toList ∧ '"' ∉ form.2.toList ∧
      (∃ first rest, form.1.toList ++ "src.".toList = first :: rest ∧ isBlank first = false) ∧
        ∃ depth, passes? .outside (form.1.toList ++ "src.".toList) = some ⟨depth, none⟩ ∧
          passes? ⟨depth, none⟩ (form.2.toList ++ " AS ".toList) = some .outside := by
  simp only [readForms, List.mem_cons, List.not_mem_nil, or_false] at member
  rcases member with rfl | rfl | rfl | rfl | rfl | rfl
  iterate 5
    · exact ⟨by decide, by decide, ⟨_, _, rfl, rfl⟩, 0, by decide, by decide⟩
  · exact ⟨by decide, by decide, ⟨_, _, rfl, rfl⟩, 1, by decide, by decide⟩

/-- **An item reads a column**, by its name among the columns of the source, and gives it that name;
no other name stands in quotes there. -/
def Reads (column : BoundColumn) (item : String) : Prop :=
  ∃ before behind, '"' ∉ before.toList ∧ '"' ∉ behind.toList ∧
    item = before ++ ("src." ++ sourceQuoted column.name) ++ behind ++ " AS " ++
      sourceQuoted column.name

theorem reads_projected (column : BoundColumn) : Reads column column.projected := by
  obtain ⟨form, member, place⟩ := exists_projection_eq column.kind column.type column.name
  obtain ⟨before, behind, _⟩ := readForms_closed member
  exact ⟨form.1, form.2, before, behind, by rw [BoundColumn.projected, place]⟩

/-- **What is read of a column can be listed.** -/
theorem isListable_projected (column : BoundColumn) : IsListable column.projected := by
  obtain ⟨form, member, place⟩ := exists_projection_eq column.kind column.type column.name
  obtain ⟨_, _, ⟨first, rest, start, solid⟩, depth, before, behind⟩ := readForms_closed member
  have letters : column.projected.toList =
      (form.1.toList ++ "src.".toList) ++ (quote '"' column.name.toList ++
        ((form.2.toList ++ " AS ".toList) ++ quote '"' column.name.toList)) := by
    rw [BoundColumn.projected, place]
    simp only [String.toList_append, sourceQuoted_toList, List.append_assoc]
  refine ⟨?_, first, _, by rw [letters, start]; rfl, solid⟩
  rw [IsItem, letters, passes?_append, before, Option.bind_some, passes?_append, passes?_quote,
    Option.bind_some, passes?_append, behind, Option.bind_some]
  exact passes?_quote 0 _

/-! ### Placeholders -/

/-- The positions that stand in a text: digits behind a colon. -/
def boundPositions : List Char → List Nat
  | [] => []
  | letter :: rest =>
    let digits := rest.takeWhile Char.isDigit
    if letter = ':' ∧ digits ≠ [] then Nat.ofDigitChars 10 digits 0 :: boundPositions rest
    else boundPositions rest

/-- Letters without a colon hold no positions. -/
theorem boundPositions_append {front : List Char} (free : ':' ∉ front) (rest : List Char) :
    boundPositions (front ++ rest) = boundPositions rest := by
  induction front with
  | nil => rfl
  | cons letter front ih =>
    rw [List.mem_cons, not_or] at free
    rw [List.cons_append, boundPositions, if_neg fun colon => free.1 colon.1.symm]
    exact ih free.2

theorem boundPositions_of_not_mem {letters : List Char} (free : ':' ∉ letters) :
    boundPositions letters = [] := by
  have unbound := boundPositions_append free []
  rwa [List.append_nil] at unbound

/-- What stands before and behind a position. -/
def bindForms : List (String × String) :=
  [("", ""), ("NUMTODSINTERVAL(", ", 'SECOND')")]

theorem exists_placeholder_eq (kind : Kind) (position : Nat) :
    ∃ form ∈ bindForms,
      kind.placeholder position = form.1 ++ (":" ++ toString position) ++ form.2 := by
  have bare : ∃ form ∈ bindForms,
      ":" ++ toString position = form.1 ++ (":" ++ toString position) ++ form.2 := by
    refine ⟨("", ""), by decide, ?_⟩
    rw [String.empty_append, String.append_empty]
  cases kind with
  | interval => exact ⟨("NUMTODSINTERVAL(", ", 'SECOND')"), by decide, rfl⟩
  | _ => exact bare

/-- What stands around a position is closed, holds no other one and does not go on with a digit. -/
theorem bindForms_closed {form : String × String} (member : form ∈ bindForms) :
    (':' ∉ form.1.toList ∧ ':' ∉ form.2.toList ∧ form.2.toList.takeWhile Char.isDigit = []) ∧
      (∃ first rest, form.1.toList ++ ":".toList = first :: rest ∧ isBlank first = false) ∧
        ∃ depth, passes? .outside (form.1.toList ++ ":".toList) = some ⟨depth, none⟩ ∧
          passes? ⟨depth, none⟩ form.2.toList = some .outside := by
  simp only [bindForms, List.mem_cons, List.not_mem_nil, or_false] at member
  rcases member with rfl | rfl
  · exact ⟨by decide, ⟨_, _, rfl, rfl⟩, 0, by decide, by decide⟩
  · exact ⟨by decide, ⟨_, _, rfl, rfl⟩, 1, by decide, by decide⟩

theorem placeholder_toList {kind : Kind} {position : Nat} {form : String × String}
    (place : kind.placeholder position = form.1 ++ (":" ++ toString position) ++ form.2) :
    (kind.placeholder position).toList =
      (form.1.toList ++ ":".toList) ++ (Nat.toDigits 10 position ++ form.2.toList) := by
  have digits : (toString position).toList = Nat.toDigits 10 position := Nat.toList_repr
  rw [place]
  simp only [String.toList_append, digits, List.append_assoc]

/-- **A placeholder can be listed.** -/
theorem isListable_placeholder (kind : Kind) (position : Nat) :
    IsListable (kind.placeholder position) := by
  obtain ⟨form, member, place⟩ := exists_placeholder_eq kind position
  obtain ⟨_, ⟨first, rest, start, solid⟩, depth, before, behind⟩ := bindForms_closed member
  have letters := placeholder_toList place
  have plain : ∀ letter ∈ Nat.toDigits 10 position, letter ∉ listMarks := by
    intro letter member
    refine not_mem_listMarks_of_isWordLetter ?_
    have digit := Nat.isDigit_of_mem_toDigits (by decide) (by decide) member
    simp [isWordLetter, digit]
  refine ⟨?_, first, _, by rw [letters, start]; rfl, solid⟩
  rw [IsItem, letters, passes?_append, before, Option.bind_some, passes?_append,
    passes?_of_plain plain, Option.bind_some, behind]

/-- **A placeholder stands for the value at its position** and for no other. -/
theorem boundPositions_placeholder (kind : Kind) (position : Nat) :
    boundPositions (kind.placeholder position).toList = [position] := by
  obtain ⟨form, member, place⟩ := exists_placeholder_eq kind position
  obtain ⟨⟨before, behind, ends⟩, _⟩ := bindForms_closed member
  have digits : ∀ letter ∈ Nat.toDigits 10 position, letter.isDigit = true :=
    fun letter member => Nat.isDigit_of_mem_toDigits (by decide) (by decide) member
  have number : (Nat.toDigits 10 position ++ form.2.toList).takeWhile Char.isDigit =
      Nat.toDigits 10 position := by
    rw [List.takeWhile_append_of_pos digits, ends, List.append_nil]
  have rest : ':' ∉ Nat.toDigits 10 position ++ form.2.toList := by
    rw [List.mem_append, not_or]
    exact ⟨fun colon => absurd (digits ':' colon) (by decide), behind⟩
  rw [placeholder_toList place, List.append_assoc, boundPositions_append before]
  show boundPositions (':' :: (Nat.toDigits 10 position ++ form.2.toList)) = _
  rw [boundPositions, number, if_pos ⟨rfl, Nat.toDigits_ne_nil⟩, Nat.ofDigitChars_ten_toDigits,
    boundPositions_of_not_mem rest]

/-! ### Rows -/

/-- **A row that is read has one value for each column**, at its position. -/
theorem readFrom_eq_ok {index : Nat} {columns : List WireColumn}
    {sent : List (Option (List UInt8))} {values : List Value}
    (read : readFrom index columns sent = .ok values) :
    values.length = columns.length ∧ ∀ (position : Nat) (column : WireColumn),
      columns[position]? = some column → ∃ value, values[position]? = some value ∧
        column.column.kind.read column.wireType (sent.getD position none) = some value := by
  induction columns generalizing index sent values with
  | nil =>
    cases read
    exact ⟨rfl, nofun⟩
  | cons first columns ih =>
    rw [readFrom] at read
    split at read
    · next value own =>
      cases rest : readFrom (index + 1) columns (sent.drop 1) with
      | error fault =>
        rw [rest] at read
        cases read
      | ok others =>
        rw [rest] at read
        cases read
        obtain ⟨length, each⟩ := ih rest
        refine ⟨congrArg (· + 1) length, fun position column found => ?_⟩
        cases position with
        | zero =>
          cases found
          refine ⟨value, rfl, ?_⟩
          cases sent <;> exact own
        | succ position =>
          obtain ⟨own, there, same⟩ := each position column found
          refine ⟨own, there, ?_⟩
          rw [← same]
          cases sent <;> rfl
    · cases read

/-- The forms in which the values of columns are bound: those of their kinds. -/
def forms (columns : List WireColumn) : List Form :=
  columns.map fun column => column.column.kind.form

/-- **The values of a row**: one for each column, read at its position, and in the form of its kind
also where it is absent. -/
structure IsRowOf (columns : List WireColumn) (sent : List (Option (List UInt8)))
    (values : List Value) : Prop where
  forms : values.map Value.form = forms columns
  each : ∀ (position : Nat) (column : WireColumn), columns[position]? = some column →
    ∃ value, values[position]? = some value ∧
      column.column.kind.read column.wireType (sent.getD position none) = some value ∧
      (sent.getD position none = none → value = Value.absent column.column.kind.form)

/-- An absent value keeps the form of the column's kind. -/
theorem Kind.eq_absent_of_read {kind : Kind} {wireType : String} {value : Value}
    (read : kind.read wireType none = some value) : value = Value.absent kind.form := by
  rw [Kind.read] at read
  split at read
  · exact (Option.some.inj read).symm
  · cases read

theorem readRow_isRowOf {columns : List WireColumn} {sent : List (Option (List UInt8))}
    {values : List Value} (read : readRow columns sent = .ok values) :
    IsRowOf columns sent values := by
  obtain ⟨length, each⟩ := readFrom_eq_ok read
  constructor
  · refine List.ext_getElem? fun position => ?_
    rw [forms, List.getElem?_map, List.getElem?_map]
    cases found : columns[position]? with
    | none =>
      rw [List.getElem?_eq_none_iff, ← length, ← List.getElem?_eq_none_iff] at found
      rw [found]
      rfl
    | some column =>
      obtain ⟨value, there, own⟩ := each position column found
      rw [there, Option.map_some, Option.map_some, Kind.read_form own]
  · intro position column found
    obtain ⟨value, there, own⟩ := each position column found
    refine ⟨value, there, own, fun missing => ?_⟩
    rw [missing] at own
    exact Kind.eq_absent_of_read own

/-! ### The statements of a copy -/

/-- **Both statements of a copy list its columns**, each at its position.

* `projected`, `inserted` — the lists that are read from the two statements: what is read, the names
  that are written, and the placeholders;
* `lengths` — each of them has as many items as there are columns;
* `each` — at the position of a column stand an item that reads it, its name, and the placeholder of
  that position, counted from one. -/
structure ListsColumns (base schema table : String) (columns : List BoundColumn)
    (items names binds : List String) : Prop where
  projected : ∃ list, readItems list = some items ∧
    projection base columns = "SELECT " ++ list ++ " FROM (" ++ base ++ ") AS src"
  inserted : ∃ list values, readItems list = some names ∧ readItems values = some binds ∧
    insertion schema table columns =
      "INSERT INTO " ++ qualified schema table ++ " (" ++ list ++ ") VALUES (" ++ values ++ ")"
  lengths : items.length = columns.length ∧ names.length = columns.length ∧
    binds.length = columns.length
  each : ∀ (position : Nat) (column : BoundColumn), columns[position]? = some column →
    ∃ item bind, items[position]? = some item ∧ Reads column item ∧
      names[position]? = some (written column.name) ∧
      binds[position]? = some bind ∧ boundPositions bind.toList = [position + 1]

theorem placeholders_getElem? {columns : List BoundColumn} {position : Nat} {column : BoundColumn}
    (found : columns[position]? = some column) :
    (placeholders columns)[position]? = some (column.kind.placeholder (position + 1)) := by
  rw [placeholders, List.getElem?_map, List.getElem?_zipIdx, found, Option.map_some,
    Option.map_some, Nat.zero_add]

/-- **The lists of both statements are read back.** -/
theorem listsColumns (base schema table : String) (columns : List BoundColumn) :
    ListsColumns base schema table columns (columns.map BoundColumn.projected)
      (columns.map fun column => written column.name) (placeholders columns) where
  projected := by
    refine ⟨_, readItems_intercalate fun text member => ?_, rfl⟩
    obtain ⟨column, _, rfl⟩ := List.mem_map.mp member
    exact isListable_projected column
  inserted := by
    refine ⟨_, _, readItems_intercalate fun text member => ?_,
      readItems_intercalate fun text member => ?_, rfl⟩
    · obtain ⟨column, _, rfl⟩ := List.mem_map.mp member
      exact isListable_written column.name
    · obtain ⟨⟨column, index⟩, _, rfl⟩ := List.mem_map.mp member
      exact isListable_placeholder column.kind (index + 1)
  lengths := by
    rw [placeholders, List.length_map, List.length_map, List.length_map, List.length_zipIdx]
    exact ⟨rfl, rfl, rfl⟩
  each := by
    intro position column found
    refine ⟨_, _, ?_, reads_projected column, ?_, placeholders_getElem? found,
      boundPositions_placeholder _ _⟩
    · rw [List.getElem?_map, found, Option.map_some]
    · rw [List.getElem?_map, found, Option.map_some]

/-- **The columns of a copy are aligned.**

* `statements` — both statements list them, each at its position;
* `rows` — a row that is read has a value for each, at its position;
* `batches` — the rows that are fetched together are all bound in the same forms. -/
structure AreAligned (base schema table : String) (columns : List WireColumn) : Prop where
  statements : ∃ items names binds,
    ListsColumns base schema table (columns.map WireColumn.column) items names binds
  rows : ∀ sent values, readRow columns sent = .ok values → IsRowOf columns sent values
  batches : ∀ {σ : Type} (server : Source.Server σ) (transaction count : Nat) (state after : σ)
    (batch : List (List Value)),
    ((server.rows transaction columns).fetch count).result state = (.ok batch, after) →
      ∀ values ∈ batch, values.map Value.form = forms columns

/-- **Reading and writing are aligned by position**, whatever the columns are called, of whichever
types they are, and in whichever types the source sends them. -/
theorem columns_areAligned (base schema table : String) (columns : List WireColumn) :
    AreAligned base schema table columns where
  statements := ⟨_, _, _, listsColumns base schema table (columns.map WireColumn.column)⟩
  rows := fun _ _ => readRow_isRowOf
  batches := by
    intro σ server transaction count state after batch fetched values member
    obtain ⟨rows, _, read⟩ := rows_fetch_eq_ok_iff.mp fetched
    obtain ⟨sent, _, own⟩ := Script.exists_of_mem_right (areRead_of_mapM read) member
    exact (readRow_isRowOf own).forms

end SchemaFerry.Copy
