/-
**The script and the copy agree on names.**

The script hands out the stored names of its tables over all of them (`build_creates`), and the
mappings hand out the targets of a copy over the whole listing (`mappings_eq_filter`): first for
first and in the same order. What is left out of a copy is left out only then, so it moves no other
table.

* **`build_agreesWith_mappings`** — rows are inserted into the table that the script creates for
  their table, and into its columns.
-/

import SchemaFerry.Copy.Query
import SchemaFerry.Proofs.Script.Created

namespace SchemaFerry.Copy

open SchemaFerry.Identifier SchemaFerry.Schema SchemaFerry.Script

/-! ### Mappings -/

/-- The mapping of a table at its place in the listing. -/
theorem mem_mappings_iff {names excluded : List String} {selects : List (String × String)}
    {mapping : TableMapping} :
    mapping ∈ mappings names excluded selects ↔
      isExcluded excluded mapping.source = false ∧
        (mapping.source, mapping.target) ∈ names.zip (tableNames names).1 ∧
          mapping.select = customSelect? selects mapping.source := by
  constructor
  · intro member
    obtain ⟨entry, kept, rfl⟩ := List.mem_map.mp member
    obtain ⟨member, copied⟩ := List.mem_filter.mp kept
    exact ⟨by simpa using copied, member, rfl⟩
  · rintro ⟨copied, member, select⟩
    refine List.mem_map.mpr ⟨(mapping.source, mapping.target), ?_, ?_⟩
    · exact List.mem_filter.mpr ⟨member, by simpa using copied⟩
    · rw [← select]

/-- The mappings of a listing of which nothing is left out. -/
theorem mappings_nil (names : List String) (selects : List (String × String)) :
    mappings names [] selects = (names.zip (tableNames names).1).map fun entry =>
      ⟨entry.1, entry.2, customSelect? selects entry.1⟩ := by
  have all : ((names.zip (tableNames names).1).filter fun entry => !isExcluded [] entry.1) =
      names.zip (tableNames names).1 := List.filter_eq_self.mpr fun _ _ => rfl
  show List.map _ (List.filter _ (names.zip (tableNames names).1)) = _
  rw [all]

/-- The targets of a listing of which nothing is left out. -/
theorem mappings_nil_target (names : List String) (selects : List (String × String)) :
    (mappings names [] selects).map TableMapping.target = (tableNames names).1 := by
  rw [mappings_nil, List.map_map]
  show List.map Prod.snd (names.zip (tableNames names).1) = _
  rw [List.map_snd_zip (Nat.le_of_eq (tableNames_length names))]

/-- **What is left out moves no other table**: it is left out of the mappings of all tables. -/
theorem mappings_eq_filter (names excluded : List String) (selects : List (String × String)) :
    mappings names excluded selects =
      (mappings names [] selects).filter fun mapping => !isExcluded excluded mapping.source := by
  rw [mappings_nil, List.filter_map]
  rfl

/-! ### Statements -/

/-- **A copy of a table goes where a statement creates it**: the statement that writes rows with the
table's columns, whatever their types, names the table and the columns as the creating one does. -/
def WritesInto (schema : String) (table : Table) (mapping : TableMapping) (statement : Statement) :
    Prop :=
  ∃ owner name columns primaryKey, statement = .createTable owner name columns primaryKey ∧
    ∀ bound : List BoundColumn, bound.map BoundColumn.name = table.columns.map Column.name →
      insertion schema mapping.target bound =
        "INSERT INTO " ++ (owner ++ "." ++ name) ++ " (" ++
          ", ".intercalate (columns.map ColumnDefinition.name) ++ ") VALUES (" ++
            ", ".intercalate (placeholders bound) ++ ")"

/-- A column of a copy is written like the column that the script creates for it. -/
theorem written_boundColumns {bound : List BoundColumn} {columns : List Column}
    (same : bound.map BoundColumn.name = columns.map Column.name) :
    (bound.map fun column => written column.name) =
      (columns.map columnDefinition).map ColumnDefinition.name := by
  have names := congrArg (List.map written) same
  simp only [List.map_map, Function.comp_def, columnDefinition] at names ⊢
  exact names

/-- A copy goes where the table is created under the name that is its target. -/
theorem writesInto_of_creates {schema : String} {table : Table} {mapping : TableMapping}
    {statement : Statement} (creates : Creates (written schema) (table, mapping.target) statement) :
    WritesInto schema table mapping statement := by
  obtain ⟨primaryKey, rfl⟩ := creates
  refine ⟨_, _, _, primaryKey, rfl, fun bound same => ?_⟩
  rw [← written_boundColumns same]
  rfl

/-! ### Agreement -/

/-- The members of two lists that are related in turn are related at every place. -/
theorem forall₂_getElem? {α β : Type} {related : α → β → Prop} {first : List α} {second : List β}
    (all : List.Forall₂ related first second) {index : Nat} {value : α}
    (found : first[index]? = some value) :
    ∃ other, second[index]? = some other ∧ related value other := by
  induction all generalizing index with
  | nil => cases found
  | cons one _ ih =>
    cases index with
    | zero =>
      cases found
      exact ⟨_, rfl, one⟩
    | succ index => exact ih found

/-- **The script of tables and the mappings of their names agree**: there is one statement that
creates a table for each table; every table that is not left out has a mapping, and its rows are
written into the table that is created at its place; leaving tables out moves no other. -/
structure AgreesWithMappings (tables : List Table) (options : Options) (excluded : List String)
    (selects : List (String × String)) : Prop where
  created : (createdTables (build tables options).1).length = tables.length
  copied : ∀ table ∈ tables, isExcluded excluded table.name = false →
    ∃ mapping ∈ mappings (tables.map Table.name) excluded selects, mapping.source = table.name
  writes : ∀ (index : Nat) (table : Table), tables[index]? = some table →
    ∀ mapping ∈ mappings (tables.map Table.name) excluded selects, mapping.source = table.name →
      ∃ statement, (createdTables (build tables options).1)[index]? = some statement ∧
        WritesInto options.schema table mapping statement
  unmoved : mappings (tables.map Table.name) excluded selects =
    (mappings (tables.map Table.name) [] selects).filter fun mapping =>
      !isExcluded excluded mapping.source

/-- **Rows are inserted into the table that the script creates for their table**, and into its
columns, for all tables with different names, whatever is left out of the copy. -/
theorem build_agreesWith_mappings (tables : List Table) (options : Options)
    (excluded : List String) (selects : List (String × String))
    (distinct : (tables.map Table.name).Nodup) :
    AgreesWithMappings tables options excluded selects := by
  have creates := build_creates tables options
  have names := tableNames_length (tables.map Table.name)
  rw [List.length_map] at names
  refine ⟨?_, ?_, ?_, mappings_eq_filter _ excluded selects⟩
  · rw [← creates.length_eq, List.length_zip, names, Nat.min_self]
  · intro table member copied
    have source : table.name ∈ (mappings (tables.map Table.name) excluded selects).map
        TableMapping.source := by
      rw [mappings_source]
      exact List.mem_filter.mpr ⟨List.mem_map_of_mem member, by rw [copied]; rfl⟩
    exact List.mem_map.mp source
  · intro index table found mapping member source
    obtain ⟨_, placed, _⟩ := mem_mappings_iff.mp member
    obtain ⟨place, entry⟩ := List.mem_iff_getElem?.mp placed
    rw [List.getElem?_zip_eq_some] at entry
    have here : (tables.map Table.name)[index]? = some table.name := by
      rw [List.getElem?_map, found]
      rfl
    have same : index = place := by
      refine (List.getElem?_inj (List.getElem?_eq_some_iff.mp here).1 distinct).mp ?_
      rw [here, entry.1, source]
    subst same
    have pair : (tables.zip (tableNames (tables.map Table.name)).1)[index]? =
        some (table, mapping.target) := List.getElem?_zip_eq_some.mpr ⟨found, entry.2⟩
    obtain ⟨statement, there, creates⟩ := forall₂_getElem? creates pair
    exact ⟨statement, there, writesInto_of_creates creates⟩

/-- Two tables whose names differ by a blank. -/
def namesakes : List Table :=
  [.named "public" "users", .named "public" "users "]

/-- The second of two tables that ask for one name keeps its number also if the first is left
out. -/
theorem build_agreesWith_mappings_namesakes :
    (namesakes.map Table.name).Nodup ∧
      AgreesWithMappings namesakes ⟨"app", .resolve (some "app") none none, [], []⟩ ["USERS"] [] ∧
      mappings (namesakes.map Table.name) ["USERS"] [] = [⟨"users ", "USERS_2", none⟩] := by
  have distinct : (namesakes.map Table.name).Nodup := by decide
  exact ⟨distinct, build_agreesWith_mappings namesakes _ _ [] distinct, by decide +kernel⟩

end SchemaFerry.Copy
