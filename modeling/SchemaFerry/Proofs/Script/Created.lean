/-
**The tables that a script creates.**

A script has one statement that creates a table for each table that it is built from, in their
order (`build_creates`): under the stored name that the table was given, and with its columns. The
names are handed out to the tables before anything else, so they depend on the names of the tables
alone (`createdNames_build`).
-/

import Mathlib.Data.List.Forall2
import SchemaFerry.Script.Build

namespace SchemaFerry.Script

open SchemaFerry.Identifier SchemaFerry.Schema

/-- The statements of a script that create tables, in its order. -/
def createdTables (sections : List Section) : List Statement :=
  (statements sections).filter Statement.createsTable

/-- The written name of the table that a statement creates. -/
def tableName? : Statement → Option String
  | .createTable _ name _ _ => some name
  | _ => none

/-- The schema and the written name of the table that a statement creates. -/
def tablePlace? : Statement → Option (String × String)
  | .createTable schema name _ _ => some (schema, name)
  | _ => none

/-- Where the tables of a script are created, in its order. -/
def tablePlaces (sections : List Section) : List (String × String) :=
  (createdTables sections).filterMap tablePlace?

/-- The written names of the tables that a script creates, in its order. -/
def createdNames (sections : List Section) : List String :=
  (createdTables sections).filterMap tableName?

/-- A statement creates a table under a stored name, with its columns. -/
def Creates (schema : String) (entry : Table × String) (statement : Statement) : Prop :=
  ∃ primaryKey, statement = .createTable schema (written entry.2)
    (entry.1.columns.map columnDefinition) primaryKey

/-! ### The statements of one table -/

/-- The statements of indexes create indexes of the one table. -/
theorem mem_indexStatements {schema stored : String} {table : Table} {allocator : Allocator}
    {covered : List (List String)} {indexes : List Index} {statement : Statement}
    (member : statement ∈ (indexStatements schema stored table allocator covered indexes).1) :
    ∃ name isUnique columns,
      statement = .createIndex schema (written stored) name isUnique columns := by
  induction indexes generalizing allocator covered with
  | nil => cases member
  | cons index rest ih =>
    rw [indexStatements] at member
    by_cases known : covered.any (sameColumns · index.columns) = true
    · rw [if_pos known] at member
      exact ih member
    · rw [if_neg known] at member
      rcases List.mem_cons.mp member with rfl | later
      · exact ⟨_, _, _, rfl⟩
      · exact ih later

/-- The statements of a table: a comment, the table, and indexes of it. -/
theorem tableStatements_eq (schema stored : String) (table : Table) (allocator : Allocator) :
    ∃ text primaryKey, ∃ indexes : List Statement,
      (tableStatements schema stored table allocator).1 =
          .comment text :: .createTable schema (written stored)
            (table.columns.map columnDefinition) primaryKey :: indexes ∧
        ∀ statement ∈ indexes, ∃ name isUnique columns,
          statement = .createIndex schema (written stored) name isUnique columns := by
  unfold tableStatements
  dsimp only
  generalize (if table.hasPrimaryKey then _ else _ : Option PrimaryKey × Allocator) = named
  obtain ⟨primaryKey, afterKey⟩ := named
  exact ⟨_, primaryKey, _, rfl, fun _ member => mem_indexStatements member⟩

/-- The statements of a table create that table and no other. -/
theorem tableStatements_creates (schema stored : String) (table : Table) (allocator : Allocator) :
    ∃ statement, (tableStatements schema stored table allocator).1.filter Statement.createsTable =
        [statement] ∧ Creates schema (table, stored) statement := by
  obtain ⟨_, primaryKey, indexes, eq, shape⟩ := tableStatements_eq schema stored table allocator
  have unmade : indexes.filter Statement.createsTable = [] := by
    refine List.filter_eq_nil_iff.mpr fun statement member => ?_
    obtain ⟨_, _, _, rfl⟩ := shape statement member
    exact Bool.false_ne_true
  refine ⟨_, ?_, primaryKey, rfl⟩
  rw [eq, List.filter_cons_of_neg Bool.false_ne_true, List.filter_cons_of_pos rfl, unmade]

/-- The statements of tables create these in turn. -/
theorem tableSection_creates (schema : String) (allocator : Allocator)
    (pairs : List (Table × ObjectNames)) :
    List.Forall₂ (Creates schema) (pairs.map fun pair => (pair.1, pair.2.table))
      ((tableSection schema allocator pairs).1.filter Statement.createsTable) := by
  induction pairs generalizing allocator with
  | nil => exact .nil
  | cons pair rest ih =>
    obtain ⟨table, names⟩ := pair
    obtain ⟨statement, first, creates⟩ :=
      tableStatements_creates schema names.table table allocator
    rw [tableSection, List.filter_append, first]
    exact .cons creates (ih _)

/-- What stands in the section of the tables. -/
theorem mem_tableSection {schema : String} {allocator : Allocator}
    {pairs : List (Table × ObjectNames)} {statement : Statement}
    (member : statement ∈ (tableSection schema allocator pairs).1) :
    (∃ text, statement = .comment text) ∨
      (∃ name columns primaryKey, statement = .createTable schema name columns primaryKey) ∨
        ∃ table name isUnique columns,
          statement = .createIndex schema table name isUnique columns := by
  induction pairs generalizing allocator with
  | nil => cases member
  | cons pair rest ih =>
    obtain ⟨table, names⟩ := pair
    obtain ⟨_, _, indexes, eq, shape⟩ := tableStatements_eq schema names.table table allocator
    rw [tableSection, List.mem_append, eq, List.mem_cons, List.mem_cons] at member
    rcases member with (rfl | rfl | index) | later
    · exact .inl ⟨_, rfl⟩
    · exact .inr (.inl ⟨_, _, _, rfl⟩)
    · obtain ⟨_, _, _, rfl⟩ := shape statement index
      exact .inr (.inr ⟨_, _, _, _, rfl⟩)
    · exact ih later

/-! ### The other sections -/

theorem foreignKeyStatements_createsTable (schema : String) (stored? : String → Option String)
    (table : Table) (names : ObjectNames) (allocator : Allocator) (keys : List ForeignKey) :
    (foreignKeyStatements schema stored? table names allocator keys).1.filter
      Statement.createsTable = [] := by
  induction keys generalizing allocator with
  | nil => rfl
  | cons key rest ih => exact ih _

theorem foreignKeySection_createsTable (schema : String) (stored? : String → Option String)
    (allocator : Allocator) (pairs : List (Table × ObjectNames)) :
    (foreignKeySection schema stored? allocator pairs).filter Statement.createsTable = [] := by
  induction pairs generalizing allocator with
  | nil => rfl
  | cons pair rest ih =>
    obtain ⟨table, names⟩ := pair
    rw [foreignKeySection, List.filter_append, foreignKeyStatements_createsTable, ih]
    rfl

/-- What stands among the roles and grants. -/
theorem mem_grantSection {schema : String} {options : Options} {objects : List ObjectNames}
    {statement : Statement} (member : statement ∈ grantSection schema options objects) :
    (∃ text, statement = .comment text) ∨ (∃ role, statement = .createRole role) ∨
      (∃ privileges object grantee, statement = .grantObject privileges schema object grantee) ∨
        ∃ role users, statement = .grantRole role users := by
  simp only [grantSection, List.mem_append, List.mem_cons, List.mem_map, List.not_mem_nil,
    or_false] at member
  rcases member with
    ((((rfl | rfl | rfl) | ⟨_, _, rfl⟩) | ⟨_, _, rfl⟩) | ⟨_, _, rfl⟩) | rfl | rfl
  · exact .inl ⟨_, rfl⟩
  · exact .inr (.inl ⟨_, rfl⟩)
  · exact .inr (.inl ⟨_, rfl⟩)
  · exact .inr (.inr (.inl ⟨_, _, _, rfl⟩))
  · exact .inr (.inr (.inl ⟨_, _, _, rfl⟩))
  · exact .inr (.inr (.inl ⟨_, _, _, rfl⟩))
  · exact .inr (.inr (.inr ⟨_, _, rfl⟩))
  · exact .inr (.inr (.inr ⟨_, _, rfl⟩))

theorem grantSection_createsTable (schema : String) (options : Options)
    (objects : List ObjectNames) :
    (grantSection schema options objects).filter Statement.createsTable = [] := by
  refine List.filter_eq_nil_iff.mpr fun statement member => ?_
  rcases mem_grantSection member with ⟨_, rfl⟩ | ⟨_, rfl⟩ | ⟨_, _, _, rfl⟩ | ⟨_, _, rfl⟩ <;>
    exact Bool.false_ne_true

/-! ### Names -/

theorem sequenceNames_isSome (allocator : Allocator) (wanted : List (Option String)) :
    (sequenceNames allocator wanted).1.map Option.isSome = wanted.map Option.isSome := by
  induction wanted generalizing allocator with
  | nil => rfl
  | cons name rest ih =>
    cases name with
    | none => exact congrArg (false :: ·) (ih allocator)
    | some name => exact congrArg (true :: ·) (ih _)

theorem sequenceNames_length (allocator : Allocator) (wanted : List (Option String)) :
    (sequenceNames allocator wanted).1.length = wanted.length := by
  have same := congrArg List.length (sequenceNames_isSome allocator wanted)
  rwa [List.length_map, List.length_map] at same

theorem tableNames_length (names : List String) : (tableNames names).1.length = names.length := by
  rw [tableNames, Allocator.allocateAll_length, List.length_map]

/-- There is a sequence or none for each table. -/
theorem objectNames_lengths (tables : List Table) :
    (tableNames (tables.map Table.name)).1.length =
      (sequenceNames (tableNames (tables.map Table.name)).2
        (tables.map Table.sequence)).1.length := by
  rw [tableNames_length, sequenceNames_length, List.length_map, List.length_map]

/-- **The stored names of tables depend on their names alone**: sequences come later. -/
theorem objectNames_table (tables : List Table) :
    (objectNames tables).1.map ObjectNames.table = (tableNames (tables.map Table.name)).1 := by
  show (List.zipWith ObjectNames.mk (tableNames (tables.map Table.name)).1
    (sequenceNames (tableNames (tables.map Table.name)).2 (tables.map Table.sequence)).1).map
      ObjectNames.table = _
  rw [List.map_zipWith]
  show List.zipWith (Function.curry Prod.fst) _ _ = _
  rw [← List.map_zip_eq_zipWith, List.map_fst_zip (Nat.le_of_eq (objectNames_lengths tables))]

/-- The stored names of sequences are handed out after those of the tables. -/
theorem objectNames_sequence (tables : List Table) :
    (objectNames tables).1.map ObjectNames.sequence =
      (sequenceNames (tableNames (tables.map Table.name)).2 (tables.map Table.sequence)).1 := by
  show (List.zipWith ObjectNames.mk (tableNames (tables.map Table.name)).1
    (sequenceNames (tableNames (tables.map Table.name)).2 (tables.map Table.sequence)).1).map
      ObjectNames.sequence = _
  rw [List.map_zipWith]
  show List.zipWith (Function.curry Prod.snd) _ _ = _
  rw [← List.map_zip_eq_zipWith, List.map_snd_zip (Nat.le_of_eq (objectNames_lengths tables).symm)]

/-- A name is handed out for the sequence of a table that needs one. -/
theorem isSome_sequence {tables : List Table} {pair : Table × ObjectNames}
    (member : pair ∈ tables.zip (objectNames tables).1) :
    pair.2.sequence.isSome = pair.1.sequence.isSome := by
  obtain ⟨index, found⟩ := List.mem_iff_getElem?.mp member
  rw [List.getElem?_zip_eq_some] at found
  have given := congrArg (·[index]?) (sequenceNames_isSome
    (tableNames (tables.map Table.name)).2 (tables.map Table.sequence))
  rw [← objectNames_sequence] at given
  simp only [List.getElem?_map, found.1, found.2, Option.map_some, Option.some.injEq] at given
  exact given

/-! ### The script -/

/-- **A script creates the tables that it is built from**, in turn. -/
theorem build_creates (tables : List Table) (options : Options) :
    List.Forall₂ (Creates (written options.schema))
      (tables.zip (tableNames (tables.map Table.name)).1)
      (createdTables (build tables options).1) := by
  have sequences : ∀ names : List String, (names.map fun name =>
      Statement.createSequence (written options.schema) (written name)).filter
        Statement.createsTable = [] := by
    intro names
    refine List.filter_eq_nil_iff.mpr fun statement member => ?_
    obtain ⟨name, _, rfl⟩ := List.mem_map.mp member
    exact Bool.false_ne_true
  have only : createdTables (build tables options).1 =
      (tableSection (written options.schema) (objectNames tables).2
        (tables.zip (objectNames tables).1)).1.filter Statement.createsTable := by
    show List.filter _ (_ ++ (_ ++ (_ ++ (_ ++ [])))) = _
    rw [List.filter_append, List.filter_append, List.filter_append, List.filter_append,
      sequences, foreignKeySection_createsTable, grantSection_createsTable]
    exact List.append_nil _
  have creates := tableSection_creates (written options.schema) (objectNames tables).2
    (tables.zip (objectNames tables).1)
  rw [only, ← objectNames_table, List.zip_map_right]
  exact creates

/-- **The tables are created under the names that were handed out to them**, all in one schema. -/
theorem tablePlaces_build (tables : List Table) (options : Options) :
    tablePlaces (build tables options).1 =
      (tableNames (tables.map Table.name)).1.map fun name =>
        (written options.schema, written name) := by
  have places : ∀ {entries : List (Table × String)} {statements : List Statement},
      List.Forall₂ (Creates (written options.schema)) entries statements →
        statements.filterMap tablePlace? =
          (entries.map Prod.snd).map fun name => (written options.schema, written name) := by
    intro entries statements creates
    induction creates with
    | nil => rfl
    | cons one _ ih =>
      obtain ⟨_, rfl⟩ := one
      exact congrArg _ ih
  have lengths : (tableNames (tables.map Table.name)).1.length = tables.length := by
    rw [tableNames_length, List.length_map]
  rw [tablePlaces, places (build_creates tables options),
    List.map_snd_zip (Nat.le_of_eq lengths)]

theorem createdNames_build (tables : List Table) (options : Options) :
    createdNames (build tables options).1 =
      (tableNames (tables.map Table.name)).1.map written := by
  have named : tableName? = fun statement => (tablePlace? statement).map Prod.snd := by
    funext statement
    cases statement <;> rfl
  have places := tablePlaces_build tables options
  rw [tablePlaces] at places
  simp only [createdNames, named, ← List.map_filterMap, places, List.map_map, Function.comp_def]

end SchemaFerry.Script
