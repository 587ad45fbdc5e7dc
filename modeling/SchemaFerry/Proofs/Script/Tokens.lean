/-
**The names that stand in a script.**

Every name that stands in a statement of a script, be it that of a schema, a table, a column, a
constraint, an index, a sequence, a role or a user, has been written (`AreWritten`), section by
section. So each of them is one token that stands for a name of the destination.

* **`names_areTokens`** — writing names is lossless, and the names in the statements of any script
  are tokens of names within the length limit.
-/

import SchemaFerry.Proofs.Identifier.Spelling
import SchemaFerry.Proofs.Script.Closed
import SchemaFerry.Proofs.Script.Uniqueness

namespace SchemaFerry.Script

open SchemaFerry.Identifier SchemaFerry.Schema

/-- All names are written forms of names. -/
def AreWritten (names : List String) : Prop :=
  ∀ name ∈ names, ∃ own, written own = name

theorem areWritten_nil : AreWritten [] := nofun

theorem areWritten_cons {own : String} {names : List String} (others : AreWritten names) :
    AreWritten (written own :: names) := by
  intro name member
  rcases List.mem_cons.mp member with same | later
  · exact ⟨own, same.symm⟩
  · exact others name later

theorem areWritten_map (names : List String) : AreWritten (names.map written) := by
  intro name member
  obtain ⟨own, _, same⟩ := List.mem_map.mp member
  exact ⟨own, same⟩

theorem AreWritten.append {first second : List String} (one : AreWritten first)
    (other : AreWritten second) : AreWritten (first ++ second) :=
  fun name member => (List.mem_append.mp member).elim (one name) (other name)

section Sections

variable {schema : String} {statement : Statement}

/-! ### Tables -/

/-- The names of the columns of a table that is created. -/
theorem areWritten_columns (columns : List Column) :
    AreWritten ((columns.map columnDefinition).map ColumnDefinition.name) := by
  have own : (columns.map columnDefinition).map ColumnDefinition.name =
      (columns.map Column.name).map written := by
    simp only [List.map_map, Function.comp_def, columnDefinition]
  rw [own]
  exact areWritten_map _

/-- The names of the primary key of a table that is created. -/
theorem areWritten_namedKey (table : Table) (allocator : Allocator) :
    AreWritten
      ((namedKey table allocator).1.toList.flatMap fun key => key.name :: key.columns) := by
  unfold namedKey
  cases table.hasPrimaryKey with
  | true =>
    simp only [if_true, Option.toList_some, List.flatMap_singleton]
    exact areWritten_cons (areWritten_map _)
  | false =>
    simp only [Bool.false_eq_true, if_false, Option.toList_none, List.flatMap_nil]
    exact areWritten_nil

theorem areWritten_indexStatements {stored : String} {table : Table} {allocator : Allocator}
    {covered : List (List String)} {indexes : List Index}
    (member : statement ∈
      (indexStatements (written schema) stored table allocator covered indexes).1) :
    AreWritten statement.names := by
  obtain ⟨index, _, name, rfl⟩ := exists_of_mem_right
    (indexStatements_creates (written schema) stored table allocator covered indexes) member
  exact areWritten_cons (areWritten_cons (areWritten_cons (areWritten_map _)))

theorem areWritten_tableSection {allocator : Allocator} {pairs : List (Table × ObjectNames)}
    (member : statement ∈ (tableSection (written schema) allocator pairs).1) :
    AreWritten statement.names := by
  induction pairs generalizing allocator with
  | nil => cases member
  | cons pair rest ih =>
    obtain ⟨table, names⟩ := pair
    rw [tableSection_cons, List.mem_append, tableStatements_split, List.mem_cons,
      List.mem_cons] at member
    rcases member with (rfl | rfl | index) | later
    · exact areWritten_nil
    · exact areWritten_cons (areWritten_cons
        ((areWritten_columns table.columns).append (areWritten_namedKey table allocator)))
    · exact areWritten_indexStatements index
    · exact ih later

/-! ### Foreign keys -/

theorem areWritten_foreignKeyStatements {stored? : String → Option String} {table : Table}
    {names : ObjectNames} {allocator : Allocator} {keys : List ForeignKey}
    (member : statement ∈
      (foreignKeyStatements (written schema) stored? table names allocator keys).1) :
    AreWritten statement.names := by
  induction keys generalizing allocator with
  | nil => cases member
  | cons key rest ih =>
    rw [foreignKeyStatements] at member
    rcases List.mem_cons.mp member with rfl | later
    · exact areWritten_cons (areWritten_cons (areWritten_cons
        ((areWritten_map _).append (areWritten_cons (areWritten_map _)))))
    · exact ih later

theorem areWritten_foreignKeySection {stored? : String → Option String} {allocator : Allocator}
    {pairs : List (Table × ObjectNames)}
    (member : statement ∈ foreignKeySection (written schema) stored? allocator pairs) :
    AreWritten statement.names := by
  induction pairs generalizing allocator with
  | nil => cases member
  | cons pair rest ih =>
    obtain ⟨table, names⟩ := pair
    rw [foreignKeySection, List.mem_append] at member
    exact member.elim areWritten_foreignKeyStatements ih

/-! ### Grants -/

theorem areWritten_grantSection {options : Options} {objects : List ObjectNames}
    (member : statement ∈ grantSection (written schema) options objects) :
    AreWritten statement.names := by
  have granted : ∀ object grantee : String,
      AreWritten [written schema, written object, written grantee] := fun object grantee =>
    areWritten_cons (areWritten_cons (areWritten_cons areWritten_nil))
  simp only [grantSection, List.mem_append, List.mem_cons, List.mem_map, List.not_mem_nil,
    or_false] at member
  rcases member with
    ((((rfl | rfl | rfl) | ⟨_, _, rfl⟩) | ⟨_, _, rfl⟩) | ⟨_, _, rfl⟩) | rfl | rfl
  · exact areWritten_nil
  · exact areWritten_cons areWritten_nil
  · exact areWritten_cons areWritten_nil
  · exact granted _ _
  · exact granted _ _
  · exact granted _ _
  · exact areWritten_cons (areWritten_map _)
  · exact areWritten_cons (areWritten_map _)

end Sections

/-! ### The script -/

/-- **All names in a script have been written.** -/
theorem build_areWritten (tables : List Table) (options : Options) {statement : Statement}
    (member : statement ∈ statements (build tables options).1) : AreWritten statement.names := by
  obtain ⟨allocator, sections⟩ := statements_build tables options
  rw [sections, List.mem_append, List.mem_append, List.mem_append] at member
  rcases member with (sequence | table) | key | grant
  · obtain ⟨name, _, rfl⟩ := List.mem_map.mp sequence
    exact areWritten_cons (areWritten_cons areWritten_nil)
  · exact areWritten_tableSection table
  · exact areWritten_foreignKeySection key
  · exact areWritten_grantSection grant

/-- **Names are written without loss, and every name in a script is a token** of a name of the
destination: for every name, and for every script of any tables. -/
theorem names_areTokens :
    (∀ name, IsLossless name) ∧
      ∀ (tables : List Table) (options : Options),
        ∀ statement ∈ statements (build tables options).1, ∀ token ∈ statement.names,
          ∃ stored, IsTokenOf token stored := by
  refine ⟨written_isLossless, fun tables options statement member token among => ?_⟩
  obtain ⟨own, rfl⟩ := build_areWritten tables options member token among
  exact ⟨normalize own, isTokenOf_written own⟩

example : written " odd \"name\" " = "\"ODD \"\"NAME\"\"\"" ∧
    read? "\"ODD \"\"NAME\"\"\"" = some "ODD \"NAME\"" := by
  decide +kernel

end SchemaFerry.Script
