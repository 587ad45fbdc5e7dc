/-
**The names that a script takes.**

One allocator answers all the requests of a script (`requests`), so the stored names that it hands
out are distinct. A script takes exactly these names, as they are written (`takenNames_build`). But
a name that was cut right behind a blank loses that blank when it is written, so two stored names
may be written alike.

* **`build_takes_distinct_iff`** — the names that a script takes are distinct exactly if no two of
  the stored names differ only in blanks at their ends; they are if no request is cut behind a
  blank;
* `build_takes_twice` — a script of two tables with different names that creates one table twice.
-/

import Mathlib.Data.List.Perm.Basic
import SchemaFerry.Proofs.Identifier.Stored
import SchemaFerry.Proofs.Script.Created
import SchemaFerry.Script.Names

namespace SchemaFerry.Script

open SchemaFerry.Identifier SchemaFerry.Schema SchemaFerry.Text

/-! ### Requests -/

/-- The indexes whose columns no earlier columns cover. -/
def keptIndexes (covered : List (List String)) : List Index → List Index
  | [] => []
  | index :: rest =>
    if covered.any (sameColumns · index.columns) then keptIndexes covered rest
    else index :: keptIndexes (covered ++ [index.columns]) rest

/-- The name that is asked for the primary key of a table. -/
def primaryKeyRequest (table : Table) : String :=
  "PK_" ++ normalize table.name

/-- The names that are asked for the primary key and the indexes of a table. -/
def tableRequests (table : Table) : List String :=
  if table.hasPrimaryKey then
    primaryKeyRequest table ::
      (keptIndexes [table.primaryKey] table.indexes).map (normalize ∘ Index.name)
  else (keptIndexes [] table.indexes).map (normalize ∘ Index.name)

/-- The name that is asked for a foreign key of a table. -/
def keyRequest (table : Table) (key : ForeignKey) : String :=
  "FK_" ++ normalize table.name ++ "_" ++ normalize key.referencedTable

/-- The names that are asked for the foreign keys of a table. -/
def keyRequests (table : Table) : List String :=
  table.foreignKeys.map (keyRequest table)

/-- All names that the script of tables asks for, in the order of the requests. -/
def requests (tables : List Table) : List String :=
  tables.map (normalize ∘ Table.name) ++ (tables.filterMap Table.sequence).map normalize ++
    tables.flatMap tableRequests ++ tables.flatMap keyRequests

/-- The stored names that are handed out for the script of tables. -/
def storedNames (tables : List Table) : List String :=
  (Allocator.empty.allocateAll (requests tables)).1

/-- **A request is in capitals** and does not start with a blank. -/
theorem isFolded_of_mem_requests {tables : List Table} {request : String}
    (member : request ∈ requests tables) : IsFolded request := by
  have word : ∀ {lead : String}, (lead = "PK_" ∨ lead = "FK_" ∨ lead = "_") → IsFolded lead := by
    rintro lead (rfl | rfl | rfl) <;>
      exact isFolded_of_capitals fun letter member => by
        fin_cases member <;> exact ⟨by decide, by decide⟩
  simp only [requests, List.mem_append, List.mem_map, List.mem_flatMap] at member
  rcases member with
    ((⟨table, _, rfl⟩ | ⟨sequence, _, rfl⟩) | ⟨table, _, asked⟩) | ⟨table, _, asked⟩
  · exact (isStored_normalize _).toIsFolded
  · exact (isStored_normalize _).toIsFolded
  · have ofIndex : ∀ {covered}, request ∈ (keptIndexes covered table.indexes).map
        (normalize ∘ Index.name) → IsFolded request := by
      intro covered asked
      obtain ⟨index, _, rfl⟩ := List.mem_map.mp asked
      exact (isStored_normalize _).toIsFolded
    by_cases key : table.hasPrimaryKey = true
    · rw [tableRequests, if_pos key] at asked
      rcases List.mem_cons.mp asked with rfl | asked
      · exact (word (.inl rfl)).append (isStored_normalize _).toIsFolded
      · exact ofIndex asked
    · rw [tableRequests, if_neg key] at asked
      exact ofIndex asked
  · obtain ⟨key, _, rfl⟩ := List.mem_map.mp asked
    exact (((word (.inr (.inl rfl))).append (isStored_normalize _).toIsFolded).append
      (word (.inr (.inr rfl)))).append (isStored_normalize _).toIsFolded

/-! ### What the statements take -/

/-- Names for requests are names for the first of them and then for the others. -/
theorem allocateAll_append (allocator : Allocator) (first second : List String) :
    allocator.allocateAll (first ++ second) =
      ((allocator.allocateAll first).1 ++ ((allocator.allocateAll first).2.allocateAll second).1,
        ((allocator.allocateAll first).2.allocateAll second).2) := by
  induction first generalizing allocator with
  | nil => rfl
  | cons request rest ih =>
    rw [List.cons_append, Allocator.allocateAll_cons, ih]
    rfl

/-- The statements of indexes take the names that were asked for the kept ones. -/
theorem indexStatements_taken (schema stored : String) (table : Table) (allocator : Allocator)
    (covered : List (List String)) (indexes : List Index) :
    (indexStatements schema stored table allocator covered indexes).1.flatMap Statement.taken =
        (allocator.allocateAll ((keptIndexes covered indexes).map (normalize ∘ Index.name))).1.map
          written ∧
      (indexStatements schema stored table allocator covered indexes).2.2 =
        (allocator.allocateAll ((keptIndexes covered indexes).map (normalize ∘ Index.name))).2 := by
  induction indexes generalizing allocator covered with
  | nil => exact ⟨rfl, rfl⟩
  | cons index rest ih =>
    rw [indexStatements, keptIndexes]
    by_cases known : covered.any (sameColumns · index.columns) = true
    · rw [if_pos known, if_pos known]
      exact ih allocator covered
    · rw [if_neg known, if_neg known]
      obtain ⟨taken, final⟩ :=
        ih (allocator.allocate (normalize index.name)).2 (covered ++ [index.columns])
      exact ⟨congrArg (written (allocator.next (normalize index.name)) :: ·) taken, final⟩

/-- The statements of a table take its stored name and the names that were asked for it. -/
theorem tableStatements_taken (schema stored : String) (table : Table) (allocator : Allocator) :
    (tableStatements schema stored table allocator).1.flatMap Statement.taken =
        written stored :: (allocator.allocateAll (tableRequests table)).1.map written ∧
      (tableStatements schema stored table allocator).2.2 =
        (allocator.allocateAll (tableRequests table)).2 := by
  unfold tableStatements tableRequests
  by_cases key : table.hasPrimaryKey = true
  · obtain ⟨taken, final⟩ := indexStatements_taken schema stored table
      ⟨allocator.next (primaryKeyRequest table) :: allocator.taken⟩ [table.primaryKey] table.indexes
    have request : "PK_" ++ normalize table.name = primaryKeyRequest table := rfl
    simp only [if_pos key, List.flatMap_cons, Statement.taken, Option.toList_some, request,
      Allocator.allocateAll_cons, Allocator.allocate, List.map_cons, ← taken]
    exact ⟨rfl, final⟩
  · obtain ⟨taken, final⟩ := indexStatements_taken schema stored table allocator [] table.indexes
    simp only [if_neg key, List.flatMap_cons, Statement.taken, Option.toList_none]
    rw [taken]
    exact ⟨rfl, final⟩

theorem tableSection_cons (schema : String) (allocator : Allocator) (table : Table)
    (names : ObjectNames) (rest : List (Table × ObjectNames)) :
    tableSection schema allocator ((table, names) :: rest) =
      ((tableStatements schema names.table table allocator).1 ++
          (tableSection schema (tableStatements schema names.table table allocator).2.2 rest).1,
        (tableStatements schema names.table table allocator).2.1 ++
          (tableSection schema (tableStatements schema names.table table allocator).2.2 rest).2.1,
        (tableSection schema (tableStatements schema names.table table allocator).2.2 rest).2.2) :=
  rfl

/-- The statements of tables take the stored names of these and the names asked for them; those of
one table stand together. -/
theorem tableSection_taken (schema : String) (allocator : Allocator)
    (pairs : List (Table × ObjectNames)) :
    ((tableSection schema allocator pairs).1.flatMap Statement.taken).Perm
        (((pairs.map Prod.snd).map ObjectNames.table).map written ++
          (allocator.allocateAll ((pairs.map Prod.fst).flatMap tableRequests)).1.map written) ∧
      (tableSection schema allocator pairs).2.2 =
        (allocator.allocateAll ((pairs.map Prod.fst).flatMap tableRequests)).2 := by
  induction pairs generalizing allocator with
  | nil => exact ⟨.refl _, rfl⟩
  | cons pair rest ih =>
    obtain ⟨table, names⟩ := pair
    obtain ⟨taken, final⟩ := tableStatements_taken schema names.table table allocator
    obtain ⟨others, last⟩ := ih (tableStatements schema names.table table allocator).2.2
    simp only [List.map_cons, List.flatMap_cons]
    rw [allocateAll_append, ← final]
    refine ⟨?_, last⟩
    rw [tableSection_cons, List.flatMap_append, taken, List.cons_append, List.cons_append,
      List.map_append]
    refine .cons _ ((others.append_left _).trans ?_)
    rw [← List.append_assoc, ← List.append_assoc]
    exact List.perm_append_comm.append_right _

/-- The statements of foreign keys take the names that were asked for them. -/
theorem foreignKeyStatements_taken (schema : String) (stored? : String → Option String)
    (table : Table) (names : ObjectNames) (allocator : Allocator) (keys : List ForeignKey) :
    (foreignKeyStatements schema stored? table names allocator keys).1.flatMap Statement.taken =
        (allocator.allocateAll (keys.map (keyRequest table))).1.map written ∧
      (foreignKeyStatements schema stored? table names allocator keys).2 =
        (allocator.allocateAll (keys.map (keyRequest table))).2 := by
  induction keys generalizing allocator with
  | nil => exact ⟨rfl, rfl⟩
  | cons key rest ih =>
    obtain ⟨taken, final⟩ := ih (allocator.allocate (keyRequest table key)).2
    exact ⟨congrArg (written (allocator.next (keyRequest table key)) :: ·) taken, final⟩

theorem foreignKeySection_taken (schema : String) (stored? : String → Option String)
    (allocator : Allocator) (pairs : List (Table × ObjectNames)) :
    (foreignKeySection schema stored? allocator pairs).flatMap Statement.taken =
      (allocator.allocateAll ((pairs.map Prod.fst).flatMap keyRequests)).1.map written := by
  induction pairs generalizing allocator with
  | nil => rfl
  | cons pair rest ih =>
    obtain ⟨table, names⟩ := pair
    obtain ⟨taken, final⟩ :=
      foreignKeyStatements_taken schema stored? table names allocator table.foreignKeys
    rw [foreignKeySection, List.flatMap_append, taken, final, ih, List.map_cons, List.flatMap_cons,
      allocateAll_append, List.map_append]
    rfl

theorem grantSection_taken (schema : String) (options : Options) (objects : List ObjectNames) :
    (grantSection schema options objects).flatMap Statement.taken = [] := by
  have unnamed : ∀ (names : List String) (grant : String → Statement),
      (∀ name, (grant name).taken = []) → (names.map grant).flatMap Statement.taken = [] := by
    intro names grant plain
    rw [List.flatMap_map]
    exact List.flatMap_eq_nil_iff.mpr fun name _ => plain name
  simp only [grantSection, List.flatMap_append]
  rw [unnamed _ _ fun _ => rfl, unnamed _ _ fun _ => rfl, unnamed _ _ fun _ => rfl]
  rfl

theorem sequenceSection_taken (schema : String) (names : List String) :
    (names.map fun name => Statement.createSequence schema (written name)).flatMap
      Statement.taken = names.map written := by
  rw [List.flatMap_map]
  exact List.map_eq_flatMap.symm

/-- The sequences that are needed are given the names that were asked for them. -/
theorem sequenceNames_eq (allocator : Allocator) (wanted : List (Option String)) :
    (sequenceNames allocator wanted).1.filterMap id =
        (allocator.allocateAll ((wanted.filterMap id).map normalize)).1 ∧
      (sequenceNames allocator wanted).2 =
        (allocator.allocateAll ((wanted.filterMap id).map normalize)).2 := by
  induction wanted generalizing allocator with
  | nil => exact ⟨rfl, rfl⟩
  | cons name rest ih =>
    cases name with
    | none => exact ih allocator
    | some name =>
      obtain ⟨names, final⟩ := ih (allocator.allocate (normalize name)).2
      exact ⟨congrArg (allocator.next (normalize name) :: ·) names, final⟩

/-- Each table stands beside its stored names. -/
theorem zip_objectNames (tables : List Table) :
    (tables.zip (objectNames tables).1).map Prod.fst = tables ∧
      (tables.zip (objectNames tables).1).map Prod.snd = (objectNames tables).1 := by
  have length : (objectNames tables).1.length = tables.length := by
    rw [← List.length_map, objectNames_table, tableNames_length, List.length_map]
  exact ⟨List.map_fst_zip (Nat.le_of_eq length.symm), List.map_snd_zip (Nat.le_of_eq length)⟩

/-- What a script takes, section by section. -/
theorem takenNames_sections (tables : List Table) (options : Options) :
    takenNames (build tables options).1 =
      ((objectNames tables).1.filterMap ObjectNames.sequence).map written ++
        ((tableSection (written options.schema) (objectNames tables).2
            (tables.zip (objectNames tables).1)).1.flatMap Statement.taken ++
          (foreignKeySection (written options.schema) (storedName? tables (objectNames tables).1)
            (tableSection (written options.schema) (objectNames tables).2
              (tables.zip (objectNames tables).1)).2.2
            (tables.zip (objectNames tables).1)).flatMap Statement.taken) := by
  show (_ ++ (_ ++ (_ ++ (_ ++ []))) : List Statement).flatMap Statement.taken = _
  rw [List.flatMap_append, List.flatMap_append, List.flatMap_append, List.append_nil,
    sequenceSection_taken, grantSection_taken, List.append_nil]
  rfl

/-- The stored names, section by section. -/
theorem storedNames_sections (tables : List Table) :
    storedNames tables = (tableNames (tables.map Table.name)).1 ++
      ((objectNames tables).1.filterMap ObjectNames.sequence ++
        (((objectNames tables).2.allocateAll (tables.flatMap tableRequests)).1 ++
          (((objectNames tables).2.allocateAll (tables.flatMap tableRequests)).2.allocateAll
            (tables.flatMap keyRequests)).1)) := by
  obtain ⟨sequences, final⟩ := sequenceNames_eq
    (tableNames (tables.map Table.name)).2 (tables.map Table.sequence)
  rw [← objectNames_sequence, List.filterMap_map, List.filterMap_map] at sequences
  rw [List.filterMap_map] at final
  have after : (objectNames tables).2 = ((tableNames (tables.map Table.name)).2.allocateAll
      ((tables.filterMap (id ∘ Table.sequence)).map normalize)).2 := final
  have given : (objectNames tables).1.filterMap ObjectNames.sequence =
      ((tableNames (tables.map Table.name)).2.allocateAll
        ((tables.filterMap (id ∘ Table.sequence)).map normalize)).1 := sequences
  rw [storedNames, requests, List.append_assoc, List.append_assoc, allocateAll_append,
    allocateAll_append, allocateAll_append, given, after, ← List.map_map]
  rfl

/-- **The names that a script takes are the stored names that are handed out**, as they are written
and in another order. -/
theorem takenNames_build (tables : List Table) (options : Options) :
    (takenNames (build tables options).1).Perm ((storedNames tables).map written) := by
  obtain ⟨first, second⟩ := zip_objectNames tables
  obtain ⟨created, afterTables⟩ := tableSection_taken (written options.schema)
    (objectNames tables).2 (tables.zip (objectNames tables).1)
  rw [first, second, objectNames_table] at created
  rw [takenNames_sections, storedNames_sections, foreignKeySection_taken, afterTables, first,
    List.map_append, List.map_append, List.map_append]
  refine ((created.append_right _).append_left _).trans ?_
  rw [List.append_assoc]
  exact List.perm_append_comm_assoc _ _ _

/-! ### Distinct names -/

/-- **The names handed out for requests in capitals are stored**, as long as their numbers leave
room. -/
theorem allocateAll_isStored {allocator : Allocator} {requests : List String}
    (folded : ∀ request ∈ requests, IsFolded request)
    (few : allocator.taken.length + requests.length + 1 < 10 ^ 29) :
    ∀ name ∈ (allocator.allocateAll requests).1, IsStored name := by
  induction requests generalizing allocator with
  | nil => nofun
  | cons request rest ih =>
    rw [Allocator.allocateAll_cons]
    rw [List.length_cons] at few
    obtain ⟨attempt, reached, given, _⟩ := allocator.next_spec request
    intro name member
    rcases List.mem_cons.mp member with rfl | later
    · rw [given]
      exact (folded request List.mem_cons_self).isStored_candidate (by omega)
    · refine ih (fun other among => folded other (List.mem_cons_of_mem _ among)) ?_ name later
      rw [List.length_cons]
      omega

/-- A name handed out for requests that are not cut behind a blank does not end with one. -/
theorem allocateAll_trimEnd {allocator : Allocator} {requests : List String}
    (folded : ∀ request ∈ requests, IsFolded request)
    (plain : ∀ request ∈ requests,
      trimEnd (request.toList.take maxLength) = request.toList.take maxLength) :
    ∀ name ∈ (allocator.allocateAll requests).1, trimEnd name.toList = name.toList := by
  induction requests generalizing allocator with
  | nil => nofun
  | cons request rest ih =>
    rw [Allocator.allocateAll_cons]
    obtain ⟨attempt, _, given, _⟩ := allocator.next_spec request
    intro name member
    rcases List.mem_cons.mp member with rfl | later
    · rw [given]
      cases attempt with
      | zero =>
        rw [candidate, (folded request List.mem_cons_self).truncate_uppercased]
        exact plain request List.mem_cons_self
      | succ attempt => exact trimEnd_eq_self fun _ _ => isBlank_of_numbered_eq_append
    · exact ih (fun other among => folded other (List.mem_cons_of_mem _ among))
        (fun other among => plain other (List.mem_cons_of_mem _ among)) name later

/-- **What is distinct among the names that a script takes**: they are the stored names as they are
written, and two of these are written alike exactly if they differ at most in blanks at their
ends. -/
structure TakesDistinct (tables : List Table) (sections : List Section) : Prop where
  taken : (takenNames sections).Perm ((storedNames tables).map written)
  stored : (storedNames tables).Nodup
  distinct_iff : (takenNames sections).Nodup ↔
    ∀ first ∈ storedNames tables, ∀ second ∈ storedNames tables,
      trimEnd first.toList = trimEnd second.toList → first = second
  distinct_of_plain : (∀ request ∈ requests tables,
    trimEnd (request.toList.take maxLength) = request.toList.take maxLength) →
      (takenNames sections).Nodup

/-- **The names that a script takes are distinct exactly if no two stored names differ only in
blanks at their ends**, for as many tables as a machine can hold. -/
theorem build_takes_distinct_iff (tables : List Table) (options : Options)
    (few : (requests tables).length < 2 ^ 63) :
    TakesDistinct tables (build tables options).1 := by
  have folded : ∀ request ∈ requests tables, IsFolded request :=
    fun _ => isFolded_of_mem_requests
  have stored : ∀ name ∈ storedNames tables, IsStored name := by
    refine allocateAll_isStored folded ?_
    rw [Allocator.empty, List.length_nil]
    omega
  have distinct : (storedNames tables).Nodup :=
    (Allocator.empty.allocateAll_nodup (requests tables)).1
  have taken := takenNames_build tables options
  have iff : (takenNames (build tables options).1).Nodup ↔
      ∀ first ∈ storedNames tables, ∀ second ∈ storedNames tables,
        trimEnd first.toList = trimEnd second.toList → first = second := by
    rw [taken.nodup_iff, List.nodup_map_iff_inj_on distinct]
    refine forall₂_congr fun first one => forall₂_congr fun second other => ?_
    rw [(stored first one).written_eq_iff (stored second other)]
  refine ⟨taken, distinct, iff, fun plain => iff.mpr fun first one second other same => ?_⟩
  have kept : ∀ name ∈ storedNames tables, trimEnd name.toList = name.toList :=
    allocateAll_trimEnd folded plain
  rw [kept first one, kept second other] at same
  exact String.toList_injective same

/-- Two tables whose names differ behind the blank that the longer one is cut at. -/
def inventories : List Table :=
  [.named "public" "monthly warehouse inventories",
    .named "public" "monthly warehouse inventories archive"]

/-- How the script of these tables is built. -/
def inventoryOptions : Options :=
  ⟨"app", Roles.resolve (some "app") none none, roleUsers [], roleUsers []⟩

theorem build_takes_distinct_iff_inventories :
    (requests inventories).length < 2 ^ 63 ∧
      TakesDistinct inventories (build inventories inventoryOptions).1 :=
  ⟨by decide, build_takes_distinct_iff inventories inventoryOptions (by decide)⟩

/-- **A script of two tables with different names creates one table twice.** -/
theorem build_takes_twice :
    (inventories.map Table.name).Nodup ∧
      takenNames (build inventories inventoryOptions).1 =
        ["\"MONTHLY WAREHOUSE INVENTORIES\"", "\"MONTHLY WAREHOUSE INVENTORIES\""] ∧
      ¬(takenNames (build inventories inventoryOptions).1).Nodup := by
  have twice : takenNames (build inventories inventoryOptions).1 =
      ["\"MONTHLY WAREHOUSE INVENTORIES\"", "\"MONTHLY WAREHOUSE INVENTORIES\""] := by
    decide +kernel
  refine ⟨by decide, twice, ?_⟩
  rw [twice]
  decide

end SchemaFerry.Script
