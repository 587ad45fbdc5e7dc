/-
**Foreign keys whose table is missing.**

A foreign key refers to a table of the script by the name that this table was given. A table that is
not among those of the script, for instance because it could not be described, was given none. Then
the key refers to it by its own name, which is normalized on its own, whatever names the tables of
the script were given. So a key that should refer to nothing may refer to another table.

* **`build_goesAstray_iff`** — the exact condition: a key whose table is missing goes astray exactly
  if some table was given the name that normalizing makes of the missing one's; it does if the names
  of the two tables are folded, and it does not if all names are words of the source;
* `build_goesAstray` — a key to one of two tables whose names differ behind their thirtieth letter,
  which is led to the other.
-/

import SchemaFerry.Proofs.Script.Closed
import SchemaFerry.Proofs.Script.Columns

namespace SchemaFerry.Identifier

open SchemaFerry.Text

/-! ### Names that normalizing keeps -/

/-- A name does not end with a blank once it is normalized: it is not cut behind one. -/
def IsCutClean (name : String) : Prop :=
  ∀ front last, (normalize name).toList = front ++ [last] → isBlank last = false

/-- A name that is not cut behind a blank is normalized once and for all. -/
theorem IsCutClean.normalize_eq_self {name : String} (clean : IsCutClean name) :
    normalize (normalize name) = normalize name :=
  (isStored_normalize name).normalize_eq_self clean

/-- A word of the source is not cut behind a blank: it has none. -/
theorem IsWord.isCutClean {name : String} (word : IsWord name) : IsCutClean name := by
  intro front last shape
  have member : last ∈ upper name.toList := by
    rw [← word.folded_eq]
    refine List.mem_of_mem_take (i := maxLength) ?_
    rw [folded, ← normalize_toList, shape]
    exact List.mem_append_right _ (List.mem_singleton_self last)
  obtain ⟨letter, among, image⟩ := List.mem_flatMap.mp member
  exact isBlank_of_mem_upperLetter (upperLetter_of_isSmallWordLetter (word.small letter among)).1
    image

/-- **Different words of the source are given the names that they ask for.** -/
theorem allocateAll_words {names : List String} (distinct : names.Nodup)
    (words : ∀ name ∈ names, IsWord name) :
    (Allocator.empty.allocateAll (names.map normalize)).1 = names.map normalize := by
  have asked : (names.map normalize).map (candidate · 0) = names.map normalize := by
    rw [List.map_map]
    exact List.map_congr_left fun name _ => (candidate_normalize name 0).trans (if_pos rfl)
  have apart : (names.map normalize).Nodup :=
    distinct.map_on fun first one second other same => by
      by_contra differ
      exact not_areFolded_of_isWord (words first one) (words second other) differ
        (normalize_eq_iff.mp same)
  rw [← asked] at apart
  exact (Allocator.allocateAll_eq_map apart (List.disjoint_nil_right _)).trans asked

end SchemaFerry.Identifier

namespace SchemaFerry.Script

open SchemaFerry.Identifier SchemaFerry.Schema SchemaFerry.Text

/-- The table that a foreign key references is missing among tables. -/
def IsDangling (tables : List Table) (key : ForeignKey) : Prop :=
  ∀ table ∈ tables, table.name ≠ key.referencedTable

instance (tables : List Table) (key : ForeignKey) : Decidable (IsDangling tables key) :=
  inferInstanceAs (Decidable (∀ table ∈ tables, table.name ≠ key.referencedTable))

/-- The written name of the table that a statement for a foreign key refers to. -/
def Statement.referencedTable? : Statement → Option String
  | .addForeignKey _ _ _ _ referenced _ _ => some referenced
  | _ => none

/-- **A statement for a foreign key goes astray**: it refers to the name that stands beside a table
other than the one that the key references. -/
def GoesAstray (named : List (Table × String)) (key : ForeignKey) (statement : Statement) : Prop :=
  ∃ table name, (table, name) ∈ named ∧ table.name ≠ key.referencedTable ∧
    statement.referencedTable? = some name

/-- **What becomes of a foreign key whose table is missing.**

* `referenced` — its statement refers to the missing table by its own name, as it is written;
* `astray_iff` — it goes astray exactly if a stored name that was given to a table is what
  normalizing makes of that name, blanks at the end apart;
* `astray_of_folded` — it does if the name of a table is folded onto the missing one's, and this is
  not cut behind a blank;
* `apart_of_words` — it does not if the names of all tables and of the missing one are words of the
  source. -/
structure Dangles (tables : List Table) (sections : List Section) (key : ForeignKey)
    (statement : Statement) : Prop where
  referenced : statement.referencedTable? = some (written key.referencedTable)
  astray_iff : GoesAstray (tables.zip (createdNames sections)) key statement ↔
    ∃ stored ∈ (tableNames (tables.map Table.name)).1,
      trimEnd stored.toList = (normalize key.referencedTable).toList
  astray_of_folded : IsCutClean key.referencedTable →
    (∃ table ∈ tables, AreFolded table.name key.referencedTable) →
      GoesAstray (tables.zip (createdNames sections)) key statement
  apart_of_words : (∀ table ∈ tables, IsWord table.name) → IsWord key.referencedTable →
    ¬GoesAstray (tables.zip (createdNames sections)) key statement

section Dangling

variable {tables : List Table} {options : Options} {key : ForeignKey} {statement : Statement}

/-- A key whose table is missing goes astray exactly if a table was given a name that is written
like the missing one's. -/
theorem goesAstray_iff_written (dangling : IsDangling tables key)
    (referenced : statement.referencedTable? = some (written key.referencedTable)) :
    GoesAstray (tables.zip (createdNames (build tables options).1)) key statement ↔
      ∃ stored ∈ (tableNames (tables.map Table.name)).1,
        written stored = written key.referencedTable := by
  have length : (tableNames (tables.map Table.name)).1.length = tables.length := by
    rw [tableNames_length, List.length_map]
  rw [GoesAstray, referenced, createdNames_build]
  constructor
  · rintro ⟨table, name, member, _, same⟩
    obtain ⟨stored, among, given⟩ := List.mem_map.mp (List.of_mem_zip member).2
    exact ⟨stored, among, given.trans (Option.some.inj same).symm⟩
  · rintro ⟨stored, among, same⟩
    obtain ⟨index, found⟩ := List.mem_iff_getElem?.mp among
    have inside : index < tables.length := length ▸ (List.getElem?_eq_some_iff.mp found).1
    refine ⟨tables[index], written stored, ?_, dangling _ (List.getElem_mem inside), ?_⟩
    · refine List.mem_iff_getElem?.mpr ⟨index, List.getElem?_zip_eq_some.mpr ⟨?_, ?_⟩⟩
      · exact List.getElem?_eq_getElem inside
      · rw [List.getElem?_map, found, Option.map_some]
    · rw [same]

/-- What is written like a name was given to a table if a table asked for it. -/
theorem exists_written_of_folded (clean : IsCutClean key.referencedTable)
    (asked : ∃ table ∈ tables, AreFolded table.name key.referencedTable) :
    ∃ stored ∈ (tableNames (tables.map Table.name)).1,
      written stored = written key.referencedTable := by
  obtain ⟨table, member, folded⟩ := asked
  have same := normalize_eq_iff.mpr folded
  have given : normalize table.name ∈ (tableNames (tables.map Table.name)).1 := by
    have asked : normalize table.name ∈ (tables.map Table.name).map normalize :=
      List.mem_map_of_mem (List.mem_map_of_mem member)
    have granted := Allocator.candidate_mem_allocateAll asked
    rwa [candidate_normalize, if_pos rfl] at granted
  refine ⟨_, given, ?_⟩
  rw [written, written, same, clean.normalize_eq_self]

/-- Nothing is written like a word of the source that no table is called, if all tables have
different words as their names. -/
theorem not_written_of_words (distinct : (tables.map Table.name).Nodup)
    (dangling : IsDangling tables key) (words : ∀ table ∈ tables, IsWord table.name)
    (word : IsWord key.referencedTable) :
    ¬∃ stored ∈ (tableNames (tables.map Table.name)).1,
      written stored = written key.referencedTable := by
  rintro ⟨stored, among, same⟩
  have wordsOf : ∀ name ∈ tables.map Table.name, IsWord name := by
    intro name member
    obtain ⟨table, own, rfl⟩ := List.mem_map.mp member
    exact words table own
  rw [tableNames, allocateAll_words distinct wordsOf] at among
  obtain ⟨name, called, rfl⟩ := List.mem_map.mp among
  obtain ⟨table, own, rfl⟩ := List.mem_map.mp called
  refine not_areFolded_of_isWord (words table own) word (dangling table own) ?_
  have folded := written_eq_iff.mp same
  rwa [← normalize_eq_iff, (words table own).isCutClean.normalize_eq_self, normalize_eq_iff]
    at folded

/-- **What becomes of a foreign key whose table is missing**, by the name that its statement refers
to. -/
theorem dangles_of_referenced (distinct : (tables.map Table.name).Nodup)
    (few : tables.length < 2 ^ 63) (dangling : IsDangling tables key)
    (referenced : statement.referencedTable? = some (written key.referencedTable)) :
    Dangles tables (build tables options).1 key statement := by
  have stored : ∀ name ∈ (tableNames (tables.map Table.name)).1, IsStored name := by
    refine allocateAll_isStored (fun request member => ?_) ?_
    · obtain ⟨name, _, rfl⟩ := List.mem_map.mp member
      exact (isStored_normalize name).toIsFolded
    · rw [List.length_map, List.length_map, Allocator.empty, List.length_nil]
      omega
  have astray : GoesAstray (tables.zip (createdNames (build tables options).1)) key statement ↔ _ :=
    goesAstray_iff_written dangling referenced
  refine ⟨referenced, astray.trans ?_, ?_, ?_⟩
  · refine exists_congr fun name => and_congr_right fun member => ?_
    rw [← (stored name member).normalize_toList, String.toList_inj]
    constructor
    · intro same
      have read := congrArg read? same
      rwa [read?_written, read?_written, Option.some.injEq] at read
    · intro same
      rw [written, written, same]
  · exact fun clean asked => astray.mpr (exists_written_of_folded clean asked)
  · exact fun words word => fun goes =>
      not_written_of_words distinct dangling words word (astray.mp goes)

/-- The statement for a key whose table is missing refers to it by its own name. -/
theorem AddsStored.referencedTable?_eq {schema : String} {objects : List ObjectNames}
    {entry : String × ForeignKey} (dangling : IsDangling tables entry.2)
    (adds : AddsStored schema (storedName? tables objects) entry statement) :
    statement.referencedTable? = some (written entry.2.referencedTable) := by
  obtain ⟨name, rfl⟩ := adds
  rw [storedName?_eq_none dangling]
  rfl

end Dangling

/-- **A foreign key whose table is missing goes astray exactly if some table was given the name that
normalizing makes of the missing one's**, for all tables with different names, of which there are as
many as a machine can hold. -/
theorem build_goesAstray_iff (tables : List Table) (options : Options)
    (distinct : (tables.map Table.name).Nodup) (few : tables.length < 2 ^ 63) :
    List.Forall₂ (fun entry statement => IsDangling tables entry.2 →
        Dangles tables (build tables options).1 entry.2 statement)
      (keysOf (tables.zip (createdNames (build tables options).1)))
      (addedKeys (build tables options).1) := by
  refine forall₂_addedKeys tables options fun entry statement adds => ?_
  dsimp only
  intro dangling
  exact dangles_of_referenced distinct few dangling (adds.referencedTable?_eq dangling)

/-- A foreign key to a table whose name has more than thirty letters. -/
def dailyKey : ForeignKey :=
  ⟨"audits_daily", ["daily_id"], "warehouse_inventory_adjustments_daily", ["id"], "NO_ACTION"⟩

/-- A table whose name starts with the same thirty letters, and the table of the foreign key. -/
def audited : List Table :=
  [.named "public" "warehouse_inventory_adjustments_monthly",
    { Table.named "public" "stock_audits" with foreignKeys := [dailyKey] }]

/-- The table that is there takes the name that the missing one would have. -/
theorem build_goesAstray_iff_audited :
    (audited.map Table.name).Nodup ∧ audited.length < 2 ^ 63 ∧
      List.Forall₂ (fun entry statement => IsDangling audited entry.2 →
          Dangles audited (build audited inventoryOptions).1 entry.2 statement)
        (keysOf (audited.zip (createdNames (build audited inventoryOptions).1)))
        (addedKeys (build audited inventoryOptions).1) ∧
      keysOf (audited.zip (createdNames (build audited inventoryOptions).1)) =
        [("STOCK_AUDITS", dailyKey)] ∧
      IsDangling audited dailyKey := by
  have distinct : (audited.map Table.name).Nodup := by decide
  exact ⟨distinct, by decide,
    build_goesAstray_iff audited inventoryOptions distinct (by decide),
    by decide +kernel, by decide +kernel⟩

/-- **A foreign key to a table that is not there is led to another one**: the script refers to the
table of the monthly adjustments where the source has the daily ones. -/
theorem build_goesAstray :
    (audited.map Table.name).Nodup ∧ IsDangling audited dailyKey ∧
      ∃ statement, addedKeys (build audited inventoryOptions).1 = [statement] ∧
        GoesAstray (audited.zip (createdNames (build audited inventoryOptions).1)) dailyKey
          statement := by
  have added : addedKeys (build audited inventoryOptions).1 =
      [.addForeignKey "APP" "STOCK_AUDITS" "FK_STOCK_AUDITS_WAREHOUSE_INVE" ["DAILY_ID"]
        "WAREHOUSE_INVENTORY_ADJUSTMENT" ["ID"] none] := by
    decide +kernel
  refine ⟨by decide, by decide +kernel, _, added,
    .named "public" "warehouse_inventory_adjustments_monthly",
    "WAREHOUSE_INVENTORY_ADJUSTMENT", ?_, by decide, rfl⟩
  decide +kernel

end SchemaFerry.Script
