/-
**The comments of a script.**

A script has a comment before each table that it creates, and one before the roles and grants
(`comments_build`). A comment is meant to be one line that starts with `--`, so that nothing in it
is run. It names what follows as this is written in the destination; a name in quotes holds all the
letters of the source's name, also those that end a line. What stands behind such a letter is no
comment any more.

* `comment_annotates` — the text of one comment, where its line ends, and what stands behind it;
* **`build_annotates`** — the comments of all scripts, which are one line each exactly if no name
  in them holds a line break;
* `build_breaks_comment` — a table with a line break in its name, and the statement that its comment
  ends with.
-/

import SchemaFerry.Proofs.Script.Closed
import SchemaFerry.Proofs.Script.Uniqueness
import SchemaFerry.Script.Layout

namespace SchemaFerry.Text

/-- **A letter that ends a line**: a line feed, a vertical tab, a form feed, a carriage return, or
one of the three that Unicode adds to these. -/
def isLineBreak (letter : Char) : Bool :=
  let code := letter.toNat
  (10 ≤ code && code ≤ 13) || code == 0x85 || code == 0x2028 || code == 0x2029

/-- Letters without a line break. -/
def IsOneLine (letters : List Char) : Prop :=
  ∀ letter ∈ letters, isLineBreak letter = false

instance (letters : List Char) : Decidable (IsOneLine letters) :=
  List.decidableBAll (isLineBreak · = false) letters

/-- What stands in a text behind its first line. -/
def behindLine (letters : List Char) : List Char :=
  letters.dropWhile fun letter => !isLineBreak letter

/-- A letter that ends a line is blank. -/
theorem isBlank_of_isLineBreak {letter : Char} (ends : isLineBreak letter = true) :
    isBlank letter = true := by
  simp only [isLineBreak, isBlank, Bool.or_eq_true, Bool.and_eq_true, decide_eq_true_eq,
    beq_iff_eq] at ends ⊢
  omega

theorem isLineBreak_of_not_isBlank {letter : Char} (plain : isBlank letter = false) :
    isLineBreak letter = false := by
  by_contra ends
  rw [isBlank_of_isLineBreak ((Bool.not_eq_false _).mp ends)] at plain
  cases plain

theorem isOneLine_iff {letters : List Char} :
    IsOneLine letters ↔ ∀ letter, isLineBreak letter = true → letter ∉ letters := by
  constructor
  · intro line letter ends member
    rw [line letter member] at ends
    cases ends
  · intro without letter member
    by_contra ends
    exact without letter ((Bool.not_eq_false _).mp ends) member

theorem IsOneLine.of_subset {letters others : List Char} (line : IsOneLine letters)
    (subset : others ⊆ letters) : IsOneLine others :=
  fun letter member => line letter (subset member)

theorem behindLine_append {front : List Char} (line : IsOneLine front) (rest : List Char) :
    behindLine (front ++ rest) = behindLine rest :=
  List.dropWhile_append_of_pos fun letter member => by rw [line letter member]; rfl

theorem mem_doubled {mark letter : Char} {letters : List Char} :
    letter ∈ doubled mark letters ↔ letter ∈ letters := by
  induction letters with
  | nil => rfl
  | cons first rest ih =>
    by_cases same : first = mark
    · simp [doubled, same, ih]
    · simp [doubled, same, ih]

/-- **Capitals bring no line breaks.** -/
theorem IsOneLine.upper {letters : List Char} (line : IsOneLine letters) :
    IsOneLine (upper letters) := by
  intro letter formed
  obtain ⟨source, member, formed⟩ := List.mem_flatMap.mp formed
  cases blank : isBlank source with
  | true =>
    rw [upperLetter_of_isBlank blank, List.mem_singleton] at formed
    rw [formed, line source member]
  | false => exact isLineBreak_of_not_isBlank (isBlank_of_mem_upperLetter blank formed)

end SchemaFerry.Text

namespace SchemaFerry.Identifier

open SchemaFerry.Text

/-! ### Line breaks in names -/

/-- The letters of a written name are those of the normalized one, quotes apart. -/
theorem mem_written_iff {name : String} {letter : Char} (other : letter ≠ '"') :
    letter ∈ (written name).toList ↔ letter ∈ (normalize name).toList := by
  rw [written, delimited]
  split
  · exact Iff.rfl
  · rw [quoted, String.toList_ofList, quote, List.mem_cons, List.mem_append, List.mem_singleton,
      mem_doubled, or_iff_right other, or_iff_left other]

/-- Normalizing brings no line breaks. -/
theorem isOneLine_normalize {name : String} (line : IsOneLine (trim name.toList)) :
    IsOneLine (normalize name).toList := by
  rw [normalize_toList]
  exact line.upper.of_subset (List.take_subset _ _)

/-- What is tried for a request has no line breaks but those of the request. -/
theorem isOneLine_candidate {request : String} (line : IsOneLine request.toList) (attempt : Nat) :
    IsOneLine (candidate request attempt).toList := by
  have base : IsOneLine (truncate maxLength (uppercased request)).toList := by
    rw [truncate, uppercased, String.toList_ofList, String.toList_ofList]
    exact line.upper.of_subset (List.take_subset _ _)
  cases attempt with
  | zero => exact base
  | succ attempt =>
    intro letter member
    rw [candidate, numbered_toList, List.mem_append, List.mem_cons] at member
    rcases member with front | rfl | digit
    · exact base letter (List.mem_of_mem_take front)
    · rfl
    · exact isLineBreak_of_not_isBlank (isCapital_of_mem_digits digit).nonblank

/-- What is handed out was tried for one of the requests. -/
theorem exists_candidate_of_mem {allocator : Allocator} {requests : List String} {name : String}
    (member : name ∈ (allocator.allocateAll requests).1) :
    ∃ request ∈ requests, ∃ attempt, name = candidate request attempt := by
  induction requests generalizing allocator with
  | nil => cases member
  | cons request rest ih =>
    rw [Allocator.allocateAll_cons, List.mem_cons] at member
    rcases member with rfl | later
    · obtain ⟨attempt, _, given, _⟩ := allocator.next_spec request
      exact ⟨request, List.mem_cons_self, attempt, given⟩
    · obtain ⟨other, among, attempt, same⟩ := ih later
      exact ⟨other, List.mem_cons_of_mem _ among, attempt, same⟩

end SchemaFerry.Identifier

namespace SchemaFerry.Script

open SchemaFerry.Identifier SchemaFerry.Schema SchemaFerry.Text

/-! ### The comments of a script -/

/-- Whether a statement is a comment. -/
def Statement.isComment : Statement → Bool
  | comment _ => true
  | _ => false

/-- The comments of a script, in its order. -/
def comments (sections : List Section) : List Statement :=
  (statements sections).filter Statement.isComment

/-- The comments among the statements of tables. -/
theorem tableSection_comments (schema : String) (allocator : Allocator)
    (pairs : List (Table × ObjectNames)) :
    (tableSection schema allocator pairs).1.filter Statement.isComment =
      pairs.map fun pair => .comment ("Table: " ++ written pair.2.table) := by
  induction pairs generalizing allocator with
  | nil => rfl
  | cons pair rest ih =>
    obtain ⟨table, names⟩ := pair
    have indexes : (indexStatements schema names.table table (namedKey table allocator).2
        (coveredByKey table) table.indexes).1.filter Statement.isComment = [] := by
      refine List.filter_eq_nil_iff.mpr fun statement member => ?_
      obtain ⟨_, _, _, rfl⟩ := mem_indexStatements member
      exact Bool.false_ne_true
    rw [tableSection_cons, List.filter_append, tableStatements_split,
      List.filter_cons_of_pos rfl, List.filter_cons_of_neg Bool.false_ne_true, indexes, ih,
      List.map_cons, List.singleton_append]

/-- The comment among the roles and grants. -/
theorem grantSection_comments (schema : String) (options : Options) (objects : List ObjectNames) :
    (grantSection schema options objects).filter Statement.isComment =
      [.comment ("Roles and grants for schema " ++ schema)] := by
  have silent : ∀ (privileges : List String) (grantee : String) (names : List String),
      (names.map fun name =>
        Statement.grantObject privileges schema (written name) grantee).filter
          Statement.isComment = [] := by
    intro privileges grantee names
    refine List.filter_eq_nil_iff.mpr fun statement member => ?_
    obtain ⟨_, _, rfl⟩ := List.mem_map.mp member
    exact Bool.false_ne_true
  simp only [grantSection, List.filter_append, silent, List.append_nil]
  rfl

/-- **There is a comment for each table that is created, and one for the roles and grants**, each
with a name as it is written. -/
theorem comments_build (tables : List Table) (options : Options) :
    comments (build tables options).1 =
      ((tableNames (tables.map Table.name)).1.map fun name =>
          .comment ("Table: " ++ written name)) ++
        [.comment ("Roles and grants for schema " ++ written options.schema)] := by
  obtain ⟨allocator, sections⟩ := statements_build tables options
  have sequences : ∀ names : List String, (names.map fun name =>
      Statement.createSequence (written options.schema) (written name)).filter
        Statement.isComment = [] := by
    intro names
    refine List.filter_eq_nil_iff.mpr fun statement member => ?_
    obtain ⟨_, _, rfl⟩ := List.mem_map.mp member
    exact Bool.false_ne_true
  have keys : (foreignKeySection (written options.schema)
      (storedName? tables (objectNames tables).1) allocator
        (tables.zip (objectNames tables).1)).filter Statement.isComment = [] := by
    refine List.filter_eq_nil_iff.mpr fun statement member => ?_
    obtain ⟨_, _, _, rfl⟩ := exists_of_mem_right (foreignKeySection_adds _ _ _ _) member
    exact Bool.false_ne_true
  have named : (tables.zip (objectNames tables).1).map (fun pair => pair.2.table) =
      (tableNames (tables.map Table.name)).1 := by
    have second := congrArg (List.map ObjectNames.table) (zip_objectNames tables).2
    rwa [List.map_map, objectNames_table] at second
  rw [comments, sections, List.filter_append, List.filter_append, List.filter_append, sequences,
    keys, tableSection_comments, grantSection_comments, List.nil_append, List.nil_append, ← named,
    List.map_map]
  rfl

/-! ### The text of a comment -/

/-- A text is a comment of one line. -/
def IsCommentLine (text : String) : Prop :=
  (∃ content, text = "-- " ++ content) ∧ IsOneLine text.toList

/-- **A statement is a comment that ends with a name.**

* `text` — it starts with two hyphens, and ends with the name as it is written;
* `breaks` — its line breaks are those of the normalized name;
* `isLine_iff` — it is one line exactly if there are none;
* `behind` — what stands behind its first line is what stands in the written name behind the first
  line of that. -/
structure Annotates (lead name : String) (statement : Statement) : Prop where
  text : statement.text = "-- " ++ (lead ++ written name)
  breaks : ∀ letter, isLineBreak letter = true →
    (letter ∈ statement.text.toList ↔ letter ∈ (normalize name).toList)
  isLine_iff : IsCommentLine statement.text ↔ IsOneLine (normalize name).toList
  behind : behindLine statement.text.toList = behindLine (written name).toList

/-- A comment whose lead is one line annotates what it names. -/
theorem comment_annotates {lead : String} (line : IsOneLine lead.toList) (name : String) :
    Annotates lead name (.comment (lead ++ written name)) := by
  have marked : IsOneLine "-- ".toList := by decide
  have letters : (Statement.comment (lead ++ written name)).text.toList =
      "-- ".toList ++ (lead.toList ++ (written name).toList) := by
    show ("-- " ++ (lead ++ written name)).toList = _
    rw [String.toList_append, String.toList_append]
  have breaks : ∀ letter, isLineBreak letter = true →
      (letter ∈ (Statement.comment (lead ++ written name)).text.toList ↔
        letter ∈ (normalize name).toList) := by
    intro letter ends
    have other : letter ≠ '"' := by
      rintro rfl
      cases ends
    rw [letters, List.mem_append, List.mem_append, mem_written_iff other,
      or_iff_right (isOneLine_iff.mp marked letter ends),
      or_iff_right (isOneLine_iff.mp line letter ends)]
  refine ⟨rfl, breaks, ?_, ?_⟩
  · rw [IsCommentLine, and_iff_right ⟨_, rfl⟩, isOneLine_iff, isOneLine_iff]
    exact forall₂_congr fun letter ends => not_congr (breaks letter ends)
  · rw [letters, behindLine_append marked, behindLine_append line]

/-! ### All comments -/

/-- The names that stand in the comments of a script, each with what stands before it. -/
def annotated (tables : List Table) (options : Options) : List (String × String) :=
  (tableNames (tables.map Table.name)).1.map (fun name => ("Table: ", name)) ++
    [("Roles and grants for schema ", options.schema)]

/-- **What the comments of a script are.**

* `each` — there is one for each table, with the stored name that the table was given, and one for
  the schema;
* `lines_iff` — they are all one line exactly if no such name, normalized, holds a line break;
* `lines_of_plain` — this is so if neither the tables nor the schema of the source have a name with
  a line break inside. -/
structure AnnotatesAll (tables : List Table) (options : Options) (sections : List Section) :
    Prop where
  each : List.Forall₂ (fun entry statement => Annotates entry.1 entry.2 statement)
    (annotated tables options) (comments sections)
  lines_iff : (∀ statement ∈ comments sections, IsCommentLine statement.text) ↔
    ∀ entry ∈ annotated tables options, IsOneLine (normalize entry.2).toList
  lines_of_plain : (∀ table ∈ tables, IsOneLine (trim table.name.toList)) →
    IsOneLine (trim options.schema.toList) →
      ∀ statement ∈ comments sections, IsCommentLine statement.text

/-- The stored names of tables whose names have no line breaks have none. -/
theorem isOneLine_of_given {tables : List Table}
    (plain : ∀ table ∈ tables, IsOneLine (trim table.name.toList)) {name : String}
    (given : name ∈ (tableNames (tables.map Table.name)).1) : IsOneLine (trim name.toList) := by
  obtain ⟨request, asked, attempt, rfl⟩ := exists_candidate_of_mem given
  obtain ⟨source, called, rfl⟩ := List.mem_map.mp asked
  obtain ⟨table, own, rfl⟩ := List.mem_map.mp called
  refine (isOneLine_candidate (isOneLine_normalize (plain table own)) attempt).of_subset ?_
  exact fun letter member =>
    (List.dropWhile_suffix _).subset ((trimEnd_isFront _).subset member)

/-- **The comments of all scripts**: whatever the tables and the schema are called, each comment
starts as one, and is one line exactly if the name in it is. -/
theorem build_annotates (tables : List Table) (options : Options) :
    AnnotatesAll tables options (build tables options).1 := by
  have each : List.Forall₂ (fun entry statement => Annotates entry.1 entry.2 statement)
      (annotated tables options) (comments (build tables options).1) := by
    rw [comments_build, annotated]
    have table : IsOneLine "Table: ".toList := by decide
    have schema : IsOneLine "Roles and grants for schema ".toList := by decide
    refine List.rel_append ?_ (.cons (comment_annotates schema options.schema) .nil)
    rw [List.forall₂_map_left_iff, List.forall₂_map_right_iff, List.forall₂_same]
    exact fun name _ => comment_annotates table name
  have lines_iff : (∀ statement ∈ comments (build tables options).1,
      IsCommentLine statement.text) ↔
        ∀ entry ∈ annotated tables options, IsOneLine (normalize entry.2).toList := by
    constructor
    · intro lines entry member
      obtain ⟨statement, among, annotates⟩ := exists_of_mem_left each member
      exact annotates.isLine_iff.mp (lines statement among)
    · intro plain statement member
      obtain ⟨entry, among, annotates⟩ := exists_of_mem_right each member
      exact annotates.isLine_iff.mpr (plain entry among)
  refine ⟨each, lines_iff, fun plain schema => lines_iff.mpr fun entry member => ?_⟩
  rcases List.mem_append.mp member with table | own
  · obtain ⟨name, given, rfl⟩ := List.mem_map.mp table
    exact isOneLine_normalize (isOneLine_of_given plain given)
  · rw [List.mem_singleton] at own
    rw [own]
    exact isOneLine_normalize schema

/-- A table whose name goes on behind a line break. -/
def brokenTable : Table :=
  .named "public" "users\ndrop table orders;--"

/-- **A comment ends with a statement**: behind the first line of the comment on a table, the script
drops another table. -/
theorem build_breaks_comment :
    (comments (build [brokenTable] inventoryOptions).1).map Statement.text =
        ["-- Table: \"USERS\nDROP TABLE ORDERS;--\"", "-- Roles and grants for schema APP"] ∧
      ¬IsCommentLine "-- Table: \"USERS\nDROP TABLE ORDERS;--\"" ∧
      String.ofList (behindLine "-- Table: \"USERS\nDROP TABLE ORDERS;--\"".toList) =
        "\nDROP TABLE ORDERS;--\"" := by
  refine ⟨by decide +kernel, fun line => ?_, by decide +kernel⟩
  have ends := line.2 '\n' (by decide +kernel)
  cases ends

end SchemaFerry.Script
