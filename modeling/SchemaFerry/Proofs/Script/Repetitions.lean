/-
**Indexes over columns that are written alike.**

Whether an index repeats another one is judged by the names that the source gives to its columns;
what matters to the destination is how these names are written. The two agree for a table whose
columns are written differently and whose primary key and indexes are over its own columns
(`anySame_iff`).

* **`tableStatements_leavesOutRepetitions`** — then exactly the indexes are left out whose columns
  are written like those of the primary key or of an earlier index that is kept (`Sorts`). Each of
  these is reported, all others are created in their order, and no two of what is created are over
  columns that are written alike.
-/

import SchemaFerry.Proofs.Script.Uniqueness

namespace SchemaFerry.Script

open SchemaFerry.Identifier SchemaFerry.Schema

/-! ### Repetitions -/

/-- The columns of an index, as they are written. -/
def writtenColumns (index : Index) : List String :=
  index.columns.map written

/-- The columns of the primary key of a table, as they are written, if it has one. -/
def writtenKey (table : Table) : Option (List String) :=
  if table.hasPrimaryKey then some (table.primaryKey.map written) else none

/-- An index repeats the primary key or one of the indexes that are kept before it: their columns
are written alike. -/
def Repeats (key : Option (List String)) (before : List Index) (index : Index) : Prop :=
  key = some (writtenColumns index) ∨
    ∃ other ∈ before, writtenColumns other = writtenColumns index

/-- **Indexes in turn are sorted into those that are kept and those that are left out**, behind
others that are kept: one is left out exactly if it repeats what comes before it. -/
inductive Sorts (key : Option (List String)) :
    List Index → List Index → List Index → List Index → Prop where
  | nil {before : List Index} : Sorts key before [] [] []
  | keep {before : List Index} {index : Index} {rest kept leftOut : List Index}
      (new : ¬ Repeats key before index)
      (others : Sorts key (before ++ [index]) rest kept leftOut) :
      Sorts key before (index :: rest) (index :: kept) leftOut
  | leaveOut {before : List Index} {index : Index} {rest kept leftOut : List Index}
      (repeated : Repeats key before index) (others : Sorts key before rest kept leftOut) :
      Sorts key before (index :: rest) kept (index :: leftOut)

theorem repeats_iff {key : Option (List String)} {before : List Index} {index : Index} :
    Repeats key before index ↔
      writtenColumns index ∈ key.toList ++ before.map writtenColumns := by
  rw [Repeats, List.mem_append, Option.mem_toList, List.mem_map]

/-- **What is kept is over columns that are all written differently.** -/
theorem Sorts.nodup {key : Option (List String)} {before indexes kept leftOut : List Index}
    (sorts : Sorts key before indexes kept leftOut)
    (distinct : (key.toList ++ before.map writtenColumns).Nodup) :
    (key.toList ++ (before ++ kept).map writtenColumns).Nodup := by
  induction sorts with
  | nil => rwa [List.append_nil]
  | @keep before index _ _ _ new _ ih =>
    rw [repeats_iff] at new
    rw [List.append_cons]
    refine ih ?_
    rw [List.map_append, ← List.append_assoc]
    exact List.nodup_append'.mpr ⟨distinct, List.nodup_singleton _,
      List.disjoint_singleton.mpr new⟩
  | leaveOut _ _ ih => exact ih distinct

/-! ### Columns of a table -/

/-- **A table has its own columns**: these are written differently, and its primary key and its
indexes are over them. -/
structure HasOwnColumns (table : Table) : Prop where
  distinct : ((table.columns.map Column.name).map written).Nodup
  key : table.primaryKey ⊆ table.columns.map Column.name
  indexes : ∀ index ∈ table.indexes, index.columns ⊆ table.columns.map Column.name

section Own

variable {own : List String}

/-- Lists of names that are written differently are the same if they are written alike. -/
theorem eq_of_map_written (distinct : (own.map written).Nodup) {first second : List String}
    (one : first ⊆ own) (other : second ⊆ own) (same : first.map written = second.map written) :
    first = second := by
  induction first generalizing second with
  | nil => exact (List.map_eq_nil_iff.mp same.symm).symm
  | cons name rest ih =>
    cases second with
    | nil => cases same
    | cons name' rest' =>
      rw [List.cons_subset] at one other
      obtain ⟨heads, tails⟩ := List.cons.inj same
      rw [List.inj_on_of_nodup_map distinct one.1 other.1 heads, ih one.2 other.2 tails]

/-- **Names of the source and written names agree on whether columns are covered.** -/
theorem anySame_iff (distinct : (own.map written).Nodup) {covered : List (List String)}
    (within : ∀ columns ∈ covered, columns ⊆ own) {columns : List String} (among : columns ⊆ own) :
    covered.any (sameColumns · columns) = true ↔
      columns.map written ∈ covered.map (List.map written) := by
  rw [List.any_eq_true, List.mem_map]
  refine exists_congr fun other => and_congr_right fun member => ?_
  constructor
  · exact map_written_eq_of_sameColumns
  · intro same
    rw [eq_of_map_written distinct (within other member) among same]
    exact sameColumns_refl columns

/-- **The indexes of a table are sorted**: behind columns that are covered, those that are kept get
statements, and those that are left out are reported. The columns that are covered are those of the
primary key and of the indexes that were kept before. -/
theorem indexStatements_sorts (distinct : (own.map written).Nodup) (schema stored : String)
    (table : Table) {key : Option (List String)} (allocator : Allocator)
    (covered : List (List String)) (before : List Index) {indexes : List Index}
    (within : ∀ columns ∈ covered, columns ⊆ own)
    (among : ∀ index ∈ indexes, index.columns ⊆ own)
    (known : covered.map (List.map written) = key.toList ++ before.map writtenColumns) :
    ∃ kept leftOut, Sorts key before indexes kept leftOut ∧
      List.Forall₂ (CreatesIndex schema stored) kept
        (indexStatements schema stored table allocator covered indexes).1 ∧
      (indexStatements schema stored table allocator covered indexes).2.1 =
        leftOut.map fun index => .indexSkipped table.name index.name index.columns := by
  induction indexes generalizing allocator covered before with
  | nil => exact ⟨[], [], .nil, .nil, rfl⟩
  | cons index rest ih =>
    rw [List.forall_mem_cons] at among
    have judged : covered.any (sameColumns · index.columns) = true ↔ Repeats key before index := by
      rw [anySame_iff distinct within among.1, known, repeats_iff]
      rfl
    rw [indexStatements]
    by_cases repeated : covered.any (sameColumns · index.columns) = true
    · rw [if_pos repeated]
      obtain ⟨kept, leftOut, sorts, creates, reports⟩ :=
        ih allocator covered before within among.2 known
      exact ⟨kept, index :: leftOut, .leaveOut (judged.mp repeated) sorts, creates,
        congrArg (Warning.indexSkipped table.name index.name index.columns :: ·) reports⟩
    · rw [if_neg repeated]
      obtain ⟨kept, leftOut, sorts, creates, reports⟩ :=
        ih (allocator.allocate (normalize index.name)).2 (covered ++ [index.columns])
          (before ++ [index])
          (List.forall_mem_append.mpr ⟨within, List.forall_mem_singleton.mpr among.1⟩) among.2
          (by rw [List.map_append, List.map_append, known, List.append_assoc]; rfl)
      exact ⟨index :: kept, leftOut, .keep (mt judged.mpr repeated) sorts,
        .cons ⟨_, rfl⟩ creates, reports⟩

end Own

/-! ### The statements of a table -/

/-- Whether a statement creates an index. -/
def Statement.createsIndex : Statement → Bool
  | createIndex .. => true
  | _ => false

/-- The lists of columns that a statement puts under an index: those of a primary key, or of an
index. -/
def Statement.indexed : Statement → List (List String)
  | createTable _ _ _ primaryKey => (primaryKey.map PrimaryKey.columns).toList
  | createIndex _ _ _ _ columns => [columns]
  | _ => []

/-- **Repetitions are left out, and nothing else is.**

* `sorted` — an index is left out exactly if its columns are written like those of the primary key
  or of an earlier index that is kept;
* `created` — those that are kept are created in their order, each with its own uniqueness;
* `reported` — those that are left out are reported one by one, in their order, behind what is
  reported on columns;
* `indexed` — what the statements put under an index is the primary key and what is kept;
* `distinct` — and no two of these lists of columns are the same. -/
structure LeavesOutRepetitions (schema stored : String) (table : Table)
    (statements : List Statement) (warnings : List Warning) (kept leftOut : List Index) : Prop where
  sorted : Sorts (writtenKey table) [] table.indexes kept leftOut
  created : List.Forall₂ (CreatesIndex schema stored) kept
    (statements.filter Statement.createsIndex)
  reported : warnings = table.columns.flatMap (columnWarnings table.name) ++
    leftOut.map fun index => .indexSkipped table.name index.name index.columns
  indexed : statements.flatMap Statement.indexed =
    (writtenKey table).toList ++ kept.map writtenColumns
  distinct : (statements.flatMap Statement.indexed).Nodup

/-- Statements that create indexes are all kept among those that do, and put their columns under an
index. -/
theorem indexes_of_creates {schema stored : String} {kept : List Index}
    {statements : List Statement}
    (creates : List.Forall₂ (CreatesIndex schema stored) kept statements) :
    statements.filter Statement.createsIndex = statements ∧
      statements.flatMap Statement.indexed = kept.map writtenColumns := by
  induction creates with
  | nil => exact ⟨rfl, rfl⟩
  | cons one _ ih =>
    obtain ⟨name, rfl⟩ := one
    rw [List.filter_cons_of_pos rfl, List.flatMap_cons, List.map_cons, ih.1, ih.2]
    exact ⟨rfl, rfl⟩

/-- **The statements of a table leave out the indexes that repeat the primary key or an earlier
index**, judged by how their columns are written. -/
theorem tableStatements_leavesOutRepetitions (schema stored : String) {table : Table}
    (allocator : Allocator) (own : HasOwnColumns table) :
    ∃ kept leftOut, LeavesOutRepetitions schema stored table
      (tableStatements schema stored table allocator).1
      (tableStatements schema stored table allocator).2.1 kept leftOut := by
  have within : ∀ columns ∈ coveredByKey table, columns ⊆ table.columns.map Column.name := by
    unfold coveredByKey
    cases table.hasPrimaryKey with
    | true => exact List.forall_mem_singleton.mpr own.key
    | false => nofun
  have known : (coveredByKey table).map (List.map written) =
      (writtenKey table).toList ++ ([] : List Index).map writtenColumns := by
    unfold coveredByKey writtenKey
    cases table.hasPrimaryKey with
    | true => rfl
    | false => rfl
  obtain ⟨kept, leftOut, sorts, creates, reports⟩ :=
    indexStatements_sorts own.distinct schema stored table (namedKey table allocator).2
      (coveredByKey table) [] within own.indexes known
  obtain ⟨all, columns⟩ := indexes_of_creates creates
  have indexed : (tableStatements schema stored table allocator).1.flatMap Statement.indexed =
      (writtenKey table).toList ++ kept.map writtenColumns := by
    rw [tableStatements_split, List.flatMap_cons, List.flatMap_cons, columns]
    show [] ++ (((namedKey table allocator).1.map PrimaryKey.columns).toList ++ _) = _
    rw [namedKey_columns, List.nil_append]
    rfl
  refine ⟨kept, leftOut, sorts, ?_, ?_, indexed, ?_⟩
  · rw [tableStatements_split, List.filter_cons_of_neg Bool.false_ne_true,
      List.filter_cons_of_neg Bool.false_ne_true, all]
    exact creates
  · rw [tableStatements_split, reports]
  · rw [indexed]
    refine sorts.nodup ?_
    cases writtenKey table with
    | none => exact List.nodup_nil
    | some key => exact List.nodup_singleton key

/-- A table with indexes over the columns of its primary key and of each other. -/
def parcels : Table :=
  { Table.named "public" "parcels" with
    columns := [⟨"id", "integer", "int4", none, none, none, false, none, false⟩,
      ⟨"Straße", "text", "text", none, none, none, true, none, false⟩]
    primaryKey := ["id"]
    indexes := [⟨"parcels_id_key", true, ["id"]⟩, ⟨"parcels_street", false, ["Straße"]⟩,
      ⟨"parcels_both", true, ["id", "Straße"]⟩, ⟨"parcels_street_key", true, ["Straße"]⟩] }

theorem tableStatements_leavesOutRepetitions_parcels :
    HasOwnColumns parcels ∧ ∃ kept leftOut, LeavesOutRepetitions "APP" "PARCELS" parcels
      (tableStatements "APP" "PARCELS" parcels .empty).1
      (tableStatements "APP" "PARCELS" parcels .empty).2.1 kept leftOut := by
  have own : HasOwnColumns parcels := ⟨by decide +kernel, by decide, by decide⟩
  exact ⟨own, tableStatements_leavesOutRepetitions "APP" "PARCELS" .empty own⟩

example : (tableStatements "APP" "PARCELS" parcels .empty).1.flatMap Statement.indexed =
    [["ID"], ["STRASSE"], ["ID", "STRASSE"]] := by
  decide +kernel

end SchemaFerry.Script
