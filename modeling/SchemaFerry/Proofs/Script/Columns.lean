/-
**The columns of a table that is created.**

Tables, sequences, indexes and keys get their names from an allocator. A column does not: its name
is normalized on its own, whatever the other columns are called, where the table is created and
where rows are written into it. So two columns go under one name exactly if normalizing folds their
names onto one (`AreFolded`).

* `normalize_eq_iff` — which names normalizing does not keep apart;
* `not_areFolded_of_isWord` — the names that the source gives to columns that are not quoted, if
  they are within the length limit, are kept apart;
* **`build_columns_distinct_iff`** — the columns of a table that is created, and those of the
  statement that writes its rows, are distinct exactly if no two columns of the table are folded;
* `build_names_column_twice` — two columns with different names that are folded.
-/

import SchemaFerry.Proofs.Copy.Agreement
import SchemaFerry.Proofs.Identifier.Stored

namespace SchemaFerry.Identifier

open SchemaFerry.Text

/-! ### Names that are folded -/

/-- A name in capitals and without blanks around it, before it is cut. -/
def folded (name : String) : List Char :=
  upper (trim name.toList)

/-- **Two names are folded onto one**: in capitals and without blanks around them they are the same,
or both are as long as a name may be and start with the same letters. -/
def AreFolded (first second : String) : Prop :=
  folded first = folded second ∨
    maxLength ≤ (folded first).length ∧ maxLength ≤ (folded second).length ∧
      (folded first).take maxLength = (folded second).take maxLength

/-- **Normalizing does not keep two names apart exactly if they are folded.** -/
theorem normalize_eq_iff {first second : String} :
    normalize first = normalize second ↔ AreFolded first second := by
  have cut : normalize first = normalize second ↔
      (folded first).take maxLength = (folded second).take maxLength := by
    rw [folded, folded, ← normalize_toList, ← normalize_toList, String.toList_inj]
  rw [cut]
  constructor
  · intro same
    by_cases long : maxLength ≤ (folded first).length ∧ maxLength ≤ (folded second).length
    · exact .inr ⟨long.1, long.2, same⟩
    · -- One of them is not cut, and the other is no longer than it.
      left
      have lengths := congrArg List.length same
      rw [List.length_take, List.length_take] at lengths
      rw [List.take_of_length_le (by omega), List.take_of_length_le (by omega)] at same
      exact same
  · rintro (same | ⟨_, _, same⟩)
    · rw [same]
    · exact same

/-- Names are written alike exactly if they are folded. -/
theorem written_eq_iff {first second : String} :
    written first = written second ↔ AreFolded first second :=
  written_eq_written_iff.trans normalize_eq_iff

/-! ### Words of the source -/

/-- A letter of a name that the source was given without quotes: it stores `a` to `z`, digits, and
the marks `_` and `$`. -/
def isSmallWordLetter (letter : Char) : Bool :=
  letter.isLower || letter.isDigit || letter == '_' || letter == '$'

/-- A name within the length limit that the source was given without quotes. -/
structure IsWord (name : String) : Prop where
  small : ∀ letter ∈ name.toList, isSmallWordLetter letter = true
  short : name.toList.length ≤ maxLength

/-- A letter of such a name is not blank, has one capital letter, and is the small letter of it. -/
theorem upperLetter_of_isSmallWordLetter {letter : Char} (small : isSmallWordLetter letter = true) :
    isBlank letter = false ∧ ∃ capital, upperLetter letter = [capital] ∧ capital.toLower = letter := by
  have ascii : letter.toNat < 0x80 := by
    simp only [isSmallWordLetter, Char.isLower, Char.isDigit, Bool.or_eq_true, Bool.and_eq_true,
      decide_eq_true_eq, ge_iff_le, UInt32.le_iff_toNat_le, beq_iff_eq] at small
    rcases small with ((⟨_, most⟩ | ⟨_, most⟩) | rfl) | rfl
    · exact Nat.lt_of_le_of_lt most (by decide)
    · exact Nat.lt_of_le_of_lt most (by decide)
    · decide
    · decide
  have all : ∀ code < 0x80, isSmallWordLetter (Char.ofNat code) = true →
      isBlank (Char.ofNat code) = false ∧
        (Char.ofNat code).toUpper.toLower = Char.ofNat code := by
    decide +kernel
  obtain ⟨plain, back⟩ := all letter.toNat ascii (by rwa [Char.ofNat_toNat])
  rw [Char.ofNat_toNat] at plain back
  exact ⟨plain, letter.toUpper, upperLetter_ascii ascii, back⟩

/-- The small letters of the capital form of such a name are its letters. -/
theorem map_toLower_upper {letters : List Char}
    (small : ∀ letter ∈ letters, isSmallWordLetter letter = true) :
    (upper letters).map Char.toLower = letters := by
  induction letters with
  | nil => rfl
  | cons letter rest ih =>
    rw [List.forall_mem_cons] at small
    obtain ⟨_, capital, form, back⟩ := upperLetter_of_isSmallWordLetter small.1
    rw [upper, List.flatMap_cons, form, List.singleton_append, List.map_cons, back]
    exact congrArg _ (ih small.2)

/-- A word of the source is put in capitals and nothing else. -/
theorem IsWord.folded_eq {name : String} (word : IsWord name) :
    folded name = upper name.toList := by
  have plain : ∀ letter ∈ name.toList, isBlank letter = false := fun letter member =>
    (upperLetter_of_isSmallWordLetter (word.small letter member)).1
  rw [folded, trim, trimStart_eq_self, trimEnd_eq_self]
  · intro front last shape
    exact plain last (by rw [shape]; exact List.mem_append_right _ List.mem_cons_self)
  · intro first rest shape
    exact plain first (by rw [shape]; exact List.mem_cons_self)

/-- **Different words of the source are not folded.** -/
theorem not_areFolded_of_isWord {first second : String} (one : IsWord first)
    (other : IsWord second) (distinct : first ≠ second) : ¬ AreFolded first second := by
  intro areFolded
  have whole : ∀ {name : String}, IsWord name →
      (folded name).take maxLength = folded name := by
    intro name word
    have length := congrArg List.length (map_toLower_upper word.small)
    rw [List.length_map] at length
    rw [word.folded_eq, List.take_of_length_le (Nat.le_trans (Nat.le_of_eq length) word.short)]
  have same : folded first = folded second := by
    rcases areFolded with same | ⟨_, _, same⟩
    · exact same
    · rwa [whole one, whole other] at same
  rw [one.folded_eq, other.folded_eq] at same
  have letters := congrArg (List.map Char.toLower) same
  rw [map_toLower_upper one.small, map_toLower_upper other.small] at letters
  exact distinct (String.toList_injective letters)

end SchemaFerry.Identifier

namespace SchemaFerry.Script

open SchemaFerry.Copy SchemaFerry.Identifier SchemaFerry.Schema

/-! ### Columns -/

/-- The names of the columns in a statement that creates a table. -/
def Statement.columnNames : Statement → List String
  | .createTable _ _ columns _ => columns.map ColumnDefinition.name
  | _ => []

/-- **How the columns of a table are named** by the statement that creates it under a stored name.

* `created` — each column under its own name, in order;
* `inserted` — the statement that writes rows with the same columns lists the same names;
* `distinct_iff` — the names are distinct exactly if no two columns of the table are folded;
* `distinct_of_words` — they are if the columns have different names that are words of the
  source. -/
structure NamesColumns (schema : String) (entry : Table × String) (statement : Statement) :
    Prop where
  created : statement.columnNames = entry.1.columns.map fun column => written column.name
  inserted : ∀ bound : List BoundColumn,
    bound.map BoundColumn.name = entry.1.columns.map Column.name →
      insertion schema entry.2 bound =
        "INSERT INTO " ++ qualified schema entry.2 ++ " (" ++
          ", ".intercalate statement.columnNames ++ ") VALUES (" ++
            ", ".intercalate (placeholders bound) ++ ")"
  distinct_iff : statement.columnNames.Nodup ↔
    (entry.1.columns.map Column.name).Pairwise fun first second => ¬ AreFolded first second
  distinct_of_words : (entry.1.columns.map Column.name).Nodup →
    (∀ column ∈ entry.1.columns, IsWord column.name) → statement.columnNames.Nodup

/-- Names are written differently exactly if no two of them are folded. -/
theorem nodup_map_written_iff (names : List String) :
    (names.map written).Nodup ↔ names.Pairwise fun first second => ¬ AreFolded first second := by
  rw [List.Nodup, List.pairwise_map]
  simp only [ne_eq, written_eq_iff]

/-- A statement that creates a table names its columns. -/
theorem Creates.namesColumns {schema : String} {entry : Table × String} {statement : Statement}
    (creates : Creates (written schema) entry statement) :
    NamesColumns schema entry statement := by
  obtain ⟨primaryKey, rfl⟩ := creates
  have created : (Statement.createTable (written schema) (written entry.2)
      (entry.1.columns.map columnDefinition) primaryKey).columnNames =
        (entry.1.columns.map Column.name).map written := by
    simp only [Statement.columnNames, List.map_map, Function.comp_def, columnDefinition]
  refine ⟨?_, fun bound same => ?_, ?_, fun distinct words => ?_⟩
  · rw [created, List.map_map, Function.comp_def]
  · rw [Statement.columnNames, ← written_boundColumns same]
    rfl
  · rw [created, nodup_map_written_iff]
  · rw [created, nodup_map_written_iff]
    refine distinct.imp_of_mem fun one other differ => ?_
    have word : ∀ {name : String}, name ∈ entry.1.columns.map Column.name → IsWord name := by
      intro name member
      obtain ⟨column, among, rfl⟩ := List.mem_map.mp member
      exact words column among
    exact not_areFolded_of_isWord (word one) (word other) differ

/-- **The columns of a table that a script creates are distinct exactly if no two of its columns are
folded**, and so are those that its rows are written into. -/
theorem build_columns_distinct_iff (tables : List Table) (options : Options) :
    List.Forall₂ (NamesColumns options.schema)
      (tables.zip (tableNames (tables.map Table.name)).1)
      (createdTables (build tables options).1) :=
  (build_creates tables options).imp fun _ _ creates => creates.namesColumns

/-- A column of which nothing but the name is of interest. -/
def addressLine (name : String) : Column :=
  ⟨name, "text", "text", none, none, none, true, none, false⟩

/-- A table with two columns whose names differ behind their thirtieth letter. -/
def shipments : Table :=
  { Table.named "public" "shipments" with
    columns := [addressLine "customer_shipping_address_line_number_one",
      addressLine "customer_shipping_address_line_number_two"] }

/-- How the script of this table is built. -/
def shipmentOptions : Options :=
  ⟨"app", Roles.resolve (some "app") none none, roleUsers [], roleUsers []⟩

/-- **A table whose columns have different names is created with one column twice**, and its rows
are written into that column twice. -/
theorem build_names_column_twice :
    let line := "CUSTOMER_SHIPPING_ADDRESS_LINE"
    (shipments.columns.map Column.name).Nodup ∧
      (createdTables (build [shipments] shipmentOptions).1).map Statement.columnNames =
        [[line, line]] ∧
      insertion "app" "SHIPMENTS"
          (shipments.columns.map fun column => ⟨column.name, .known "text"⟩) =
        "INSERT INTO APP.SHIPMENTS (" ++ line ++ ", " ++ line ++ ") VALUES (:1, :2)" ∧
      ¬[line, line].Nodup := by
  intro line
  have one : written "customer_shipping_address_line_number_one" = line := by decide +kernel
  have two : written "customer_shipping_address_line_number_two" = line := by decide +kernel
  have place : qualified "app" "SHIPMENTS" = "APP.SHIPMENTS" := by decide +kernel
  refine ⟨by decide, by decide +kernel, ?_, by decide⟩
  show "INSERT INTO " ++ qualified "app" "SHIPMENTS" ++ " (" ++
    ", ".intercalate [written "customer_shipping_address_line_number_one",
      written "customer_shipping_address_line_number_two"] ++ ") VALUES (" ++
        ", ".intercalate [":1", ":2"] ++ ")" = _
  rw [one, two, place]
  rfl

end SchemaFerry.Script
