/-
**A script needs nothing that comes later.**

The sections of a script stand in the order in which they need each other: sequences, tables with
their indexes, foreign keys, roles with their grants. So the script can be run from its first
statement to its last: the table of an index or a foreign key, the object of a grant and its role
have been created before. Foreign keys are added behind all tables, so tables may refer to
themselves, to later ones and to each other.

A foreign key refers to a table of the source by the name that the script creates this table under,
also where that is not the name that the table asked for.

* **`build_standsAlone`** — a script is closed, and has one statement for each foreign key of the
  source, between the tables that the script creates for the two tables of the key.
-/

import SchemaFerry.Proofs.Script.Distinct

namespace SchemaFerry.Script

open SchemaFerry.Identifier SchemaFerry.Schema

/-! ### Lists that are related in turn -/

/-- What stands in the second of two lists that are related in turn is related to a member of the
first. -/
theorem exists_of_mem_right {α β : Type} {related : α → β → Prop} {first : List α}
    {second : List β} (all : List.Forall₂ related first second) {other : β}
    (member : other ∈ second) : ∃ value ∈ first, related value other := by
  induction all with
  | nil => cases member
  | cons one _ ih =>
    rcases List.mem_cons.mp member with rfl | later
    · exact ⟨_, List.mem_cons_self, one⟩
    · obtain ⟨value, among, relates⟩ := ih later
      exact ⟨value, List.mem_cons_of_mem _ among, relates⟩

/-- What stands in the first of two lists that are related in turn is related to a member of the
second. -/
theorem exists_of_mem_left {α β : Type} {related : α → β → Prop} {first : List α}
    {second : List β} (all : List.Forall₂ related first second) {value : α}
    (member : value ∈ first) : ∃ other ∈ second, related value other :=
  exists_of_mem_right all.flip member

/-! ### Readiness -/

/-- **More that is known hinders no statement.** -/
theorem Statement.isReady_mono {known more : List Created} (subset : known ⊆ more)
    (statement : Statement) (ready : statement.isReady known = true) :
    statement.isReady more = true := by
  have grows : ∀ {object}, known.contains object = true → more.contains object = true :=
    fun there => List.contains_iff_mem.mpr (subset (List.contains_iff_mem.mp there))
  cases statement with
  | createIndex => exact grows ready
  | addForeignKey => exact grows ready
  | grantRole => exact grows ready
  | grantObject =>
    simp only [isReady, Bool.and_eq_true, Bool.or_eq_true] at ready ⊢
    exact ⟨ready.1.imp grows grows, grows ready.2⟩
  | comment | createSequence | createTable | createRole => rfl

/-- Statements that can all follow on what is known can follow on each other. -/
theorem closedAfter_of_forall {known : List Created} {statements : List Statement}
    (ready : ∀ statement ∈ statements, statement.isReady known = true) :
    closedAfter known statements = true := by
  induction statements generalizing known with
  | nil => rfl
  | cons statement rest ih =>
    rw [closedAfter, ready statement List.mem_cons_self, Bool.true_and]
    exact ih fun other member => other.isReady_mono (List.subset_append_left _ _)
      (ready other (List.mem_cons_of_mem _ member))

/-- A statement that creates a table brings this table. -/
theorem mem_created_of_creates {schema : String} {entries : List (Table × String)}
    {statements : List Statement}
    (creates : List.Forall₂ (Creates schema) entries (statements.filter Statement.createsTable))
    {table : Table} {stored : String} (member : (table, stored) ∈ entries) :
    Created.table (written stored) ∈ statements.flatMap Statement.created := by
  obtain ⟨statement, among, primaryKey, rfl⟩ := exists_of_mem_left creates member
  exact List.mem_flatMap.mpr ⟨_, (List.mem_filter.mp among).1, List.mem_singleton_self _⟩

/-! ### Tables -/

/-- The statements of a table can follow on anything. -/
theorem closedAfter_tableStatements (known : List Created) (schema stored : String) (table : Table)
    (allocator : Allocator) :
    closedAfter known (tableStatements schema stored table allocator).1 = true := by
  obtain ⟨_, _, indexes, eq, shape⟩ := tableStatements_eq schema stored table allocator
  rw [eq]
  show closedAfter _ indexes = true
  refine closedAfter_of_forall fun statement member => ?_
  obtain ⟨_, _, _, rfl⟩ := shape statement member
  exact List.contains_iff_mem.mpr (List.mem_append_right _ (List.mem_singleton_self _))

/-- The statements of tables can follow on anything. -/
theorem closedAfter_tableSection (known : List Created) (schema : String) (allocator : Allocator)
    (pairs : List (Table × ObjectNames)) :
    closedAfter known (tableSection schema allocator pairs).1 = true := by
  induction pairs generalizing known allocator with
  | nil => rfl
  | cons pair rest ih =>
    obtain ⟨table, names⟩ := pair
    rw [tableSection_cons, closedAfter_append, closedAfter_tableStatements, ih]
    rfl

/-! ### Foreign keys -/

/-- Whether a statement adds a foreign key. -/
def Statement.addsKey : Statement → Bool
  | addForeignKey .. => true
  | _ => false

/-- The statements of a script that add foreign keys, in its order. -/
def addedKeys (sections : List Section) : List Statement :=
  (statements sections).filter Statement.addsKey

/-- The foreign keys of tables, in the order of the tables and for each table in the order of its
keys; each beside the name that stands with its table. -/
def keysOf (named : List (Table × String)) : List (String × ForeignKey) :=
  named.flatMap fun entry => entry.1.foreignKeys.map fun key => (entry.2, key)

theorem keysOf_written (named : List (Table × String)) :
    keysOf (named.map fun entry => (entry.1, written entry.2)) =
      (keysOf named).map fun entry => (written entry.1, entry.2) := by
  simp only [keysOf, List.flatMap_map, List.map_flatMap, List.map_map]
  rfl

/-- A statement adds a foreign key to the table of a stored name, and refers to another by the
stored name that this table was given. -/
def AddsStored (schema : String) (stored? : String → Option String)
    (entry : String × ForeignKey) (statement : Statement) : Prop :=
  ∃ name, statement = .addForeignKey schema (written entry.1) name (entry.2.columns.map written)
    (written ((stored? entry.2.referencedTable).getD entry.2.referencedTable))
    (entry.2.referencedColumns.map written) (deleteClause? entry.2.onDelete)

theorem foreignKeyStatements_adds (schema : String) (stored? : String → Option String)
    (table : Table) (names : ObjectNames) (allocator : Allocator) (keys : List ForeignKey) :
    List.Forall₂ (AddsStored schema stored?) (keys.map fun key => (names.table, key))
      (foreignKeyStatements schema stored? table names allocator keys).1 := by
  induction keys generalizing allocator with
  | nil => exact .nil
  | cons key rest ih => exact .cons ⟨_, rfl⟩ (ih _)

/-- **There is one statement for each foreign key**, in their order. -/
theorem foreignKeySection_adds (schema : String) (stored? : String → Option String)
    (allocator : Allocator) (pairs : List (Table × ObjectNames)) :
    List.Forall₂ (AddsStored schema stored?)
      (keysOf (pairs.map fun pair => (pair.1, pair.2.table)))
      (foreignKeySection schema stored? allocator pairs) := by
  induction pairs generalizing allocator with
  | nil => exact .nil
  | cons pair rest ih =>
    obtain ⟨table, names⟩ := pair
    exact List.rel_append
      (foreignKeyStatements_adds schema stored? table names allocator table.foreignKeys) (ih _)

/-- Of tables with different names, the one of a name is referred to by the stored name that it was
given. -/
theorem storedName?_of_mem {tables : List Table} {objects : List ObjectNames}
    (distinct : ((tables.zip objects).map fun pair => pair.1.name).Nodup) {table : Table}
    {names : ObjectNames} (member : (table, names) ∈ tables.zip objects) :
    storedName? tables objects table.name = some names.table := by
  rw [storedName?]
  cases found : (tables.zip objects).reverse.find? fun pair => pair.1.name == table.name with
  | none =>
    have other := List.find?_eq_none.mp found (table, names) (List.mem_reverse.mpr member)
    exact absurd (beq_self_eq_true table.name) other
  | some pair =>
    have named := List.find?_some found
    have same : pair.1.name = table.name := eq_of_beq named
    have among := List.mem_reverse.mp (List.mem_of_find?_eq_some found)
    have only : pair = (table, names) := List.inj_on_of_nodup_map distinct among member same
    rw [only, Option.map_some]

/-- A name that no table has is not looked up. -/
theorem storedName?_eq_none {tables : List Table} {objects : List ObjectNames} {name : String}
    (other : ∀ table ∈ tables, table.name ≠ name) : storedName? tables objects name = none := by
  rw [storedName?, Option.map_eq_none_iff]
  refine List.find?_eq_none.mpr fun pair member same => ?_
  exact other pair.1 (List.of_mem_zip (List.mem_reverse.mp member)).1 (eq_of_beq same)

/-! ### The script -/

/-- A statement creates a table with the columns of a table of the source. -/
def BuiltFrom (schema : String) (table : Table) (statement : Statement) : Prop :=
  ∃ name primaryKey,
    statement = .createTable schema name (table.columns.map columnDefinition) primaryKey

/-- A statement adds a foreign key to the table of the name that stands beside the key. It refers to
a table of the source by the name that stands beside this table, and to any other table by the name
that the key gives. -/
def AddsKey (schema : String) (named : List (Table × String)) (entry : String × ForeignKey)
    (statement : Statement) : Prop :=
  ∃ name referenced,
    statement = .addForeignKey schema entry.1 name (entry.2.columns.map written) referenced
      (entry.2.referencedColumns.map written) (deleteClause? entry.2.onDelete) ∧
    (∀ other ∈ named, other.1.name = entry.2.referencedTable → referenced = other.2) ∧
    ((∀ other ∈ named, other.1.name ≠ entry.2.referencedTable) →
      referenced = written entry.2.referencedTable)

/-- **The script of tables stands alone**: no statement needs what comes later or never; one table
is created for each table of the source; and one foreign key is added for each of the source,
behind all tables, on the table that is created for the key's own table, to the table that is
created for the one that it references. -/
structure StandsAlone (tables : List Table) (options : Options) (sections : List Section) :
    Prop where
  closed : isClosed sections = true
  created : List.Forall₂ (BuiltFrom (written options.schema)) tables (createdTables sections)
  apart : ∃ first second, statements sections = first ++ second ∧
    first.filter Statement.addsKey = [] ∧ second.filter Statement.createsTable = []
  keys : List.Forall₂ (AddsKey (written options.schema) (tables.zip (createdNames sections)))
    (keysOf (tables.zip (createdNames sections))) (addedKeys sections)

/-- The tables beside the names that they are created under. -/
theorem zip_createdNames (tables : List Table) (options : Options) :
    tables.zip (createdNames (build tables options).1) =
      (tables.zip (objectNames tables).1).map fun pair => (pair.1, written pair.2.table) := by
  rw [createdNames_build, ← objectNames_table, List.map_map, List.zip_map_right]
  simp only [Prod.map_def, Function.comp_apply, id_eq]

/-- What a key is added by, once the stored names are those of the tables. -/
theorem AddsStored.addsKey {schema : String} {tables : List Table} {objects : List ObjectNames}
    (distinct : ((tables.zip objects).map fun pair => pair.1.name).Nodup)
    {entry : String × ForeignKey} {statement : Statement}
    (adds : AddsStored schema (storedName? tables objects) entry statement)
    (all : (tables.zip objects).map Prod.fst = tables) :
    AddsKey schema ((tables.zip objects).map fun pair => (pair.1, written pair.2.table))
      (written entry.1, entry.2) statement := by
  obtain ⟨name, rfl⟩ := adds
  simp only [AddsKey]
  refine ⟨name, _, rfl, ?_, ?_⟩
  · intro other member same
    obtain ⟨⟨table, names⟩, among, rfl⟩ := List.mem_map.mp member
    dsimp only at same ⊢
    rw [← same, storedName?_of_mem distinct among, Option.getD_some]
  · intro unlisted
    rw [storedName?_eq_none fun table member => ?_, Option.getD_none]
    · rw [← all] at member
      obtain ⟨pair, among, rfl⟩ := List.mem_map.mp member
      exact unlisted _ (List.mem_map_of_mem among)

/-- Statements on roles and objects that are all known can follow. -/
theorem closedAfter_grantSection {known : List Created} {schema : String} {options : Options}
    {objects : List ObjectNames}
    (tables : ∀ names ∈ objects, Created.table (written names.table) ∈ known)
    (sequences : ∀ name ∈ objects.filterMap ObjectNames.sequence,
      Created.sequence (written name) ∈ known) :
    closedAfter known (grantSection schema options objects) = true := by
  -- The comment and the two roles stand first; all that follows can follow on these and `known`.
  simp only [grantSection, List.append_assoc]
  rw [closedAfter_append, after_created, Bool.and_eq_true]
  refine ⟨rfl, closedAfter_of_forall fun statement member => ?_⟩
  simp only [List.mem_append, List.mem_cons, List.mem_map, List.not_mem_nil, or_false] at member
  rcases member with ⟨name, among, rfl⟩ | ⟨name, ⟨names, among, rfl⟩, rfl⟩ |
    ⟨name, ⟨names, among, rfl⟩, rfl⟩ | rfl | rfl
  · simp [Statement.isReady, Statement.created, sequences name among]
  · simp [Statement.isReady, Statement.created, tables names among]
  · simp [Statement.isReady, Statement.created, tables names among]
  · simp [Statement.isReady, Statement.created]
  · simp [Statement.isReady, Statement.created]

/-- The script, section by section; the foreign keys are named by some allocator. -/
theorem statements_build (tables : List Table) (options : Options) :
    ∃ allocator, statements (build tables options).1 =
      (((objectNames tables).1.filterMap ObjectNames.sequence).map fun name =>
          Statement.createSequence (written options.schema) (written name)) ++
        (tableSection (written options.schema) (objectNames tables).2
          (tables.zip (objectNames tables).1)).1 ++
        (foreignKeySection (written options.schema) (storedName? tables (objectNames tables).1)
            allocator (tables.zip (objectNames tables).1) ++
          grantSection (written options.schema) options (objectNames tables).1) := by
  refine ⟨(tableSection (written options.schema) (objectNames tables).2
    (tables.zip (objectNames tables).1)).2.2, ?_⟩
  show (_ ++ (_ ++ (_ ++ (_ ++ []))) : List Statement) = _
  rw [List.append_nil, List.append_assoc]
  rfl

/-- The schema and the written name of the sequence that a statement creates. -/
def sequencePlace? : Statement → Option (String × String)
  | .createSequence schema name => some (schema, name)
  | _ => none

/-- Where the sequences of a script are created, in its order. -/
def sequencePlaces (sections : List Section) : List (String × String) :=
  (statements sections).filterMap sequencePlace?

/-- **The sequences are created under the names that were handed out to them**, all in one
schema. -/
theorem sequencePlaces_build (tables : List Table) (options : Options) :
    sequencePlaces (build tables options).1 =
      ((objectNames tables).1.filterMap ObjectNames.sequence).map fun name =>
        (written options.schema, written name) := by
  obtain ⟨allocator, script⟩ := statements_build tables options
  have ofTables : (tableSection (written options.schema) (objectNames tables).2
      (tables.zip (objectNames tables).1)).1.filterMap sequencePlace? = [] := by
    refine List.filterMap_eq_nil_iff.mpr fun statement member => ?_
    rcases mem_tableSection member with ⟨_, rfl⟩ | ⟨_, _, _, rfl⟩ | ⟨_, _, _, _, rfl⟩ <;> rfl
  have ofKeys : (foreignKeySection (written options.schema)
      (storedName? tables (objectNames tables).1) allocator
      (tables.zip (objectNames tables).1)).filterMap sequencePlace? = [] := by
    refine List.filterMap_eq_nil_iff.mpr fun statement member => ?_
    obtain ⟨_, _, _, rfl⟩ := exists_of_mem_right (foreignKeySection_adds _ _ _ _) member
    rfl
  have ofGrants : (grantSection (written options.schema) options
      (objectNames tables).1).filterMap sequencePlace? = [] := by
    refine List.filterMap_eq_nil_iff.mpr fun statement member => ?_
    rcases mem_grantSection member with ⟨_, rfl⟩ | ⟨_, rfl⟩ | ⟨_, _, _, rfl⟩ | ⟨_, _, rfl⟩ <;> rfl
  rw [sequencePlaces, script, List.filterMap_append, List.filterMap_append,
    List.filterMap_append, ofTables, ofKeys, ofGrants, List.append_nil, List.append_nil,
    List.append_nil, List.filterMap_map]
  exact congrFun List.filterMap_eq_map _

/-- The tables of a script add no foreign key. -/
theorem tableSection_addsKey (schema : String) (allocator : Allocator)
    (pairs : List (Table × ObjectNames)) :
    (tableSection schema allocator pairs).1.filter Statement.addsKey = [] := by
  refine List.filter_eq_nil_iff.mpr fun statement member => ?_
  rcases mem_tableSection member with ⟨_, rfl⟩ | ⟨_, _, _, rfl⟩ | ⟨_, _, _, _, rfl⟩ <;>
    exact Bool.false_ne_true

/-- The statements for foreign keys do nothing else. -/
theorem foreignKeySection_addsKey (schema : String) (stored? : String → Option String)
    (allocator : Allocator) (pairs : List (Table × ObjectNames)) :
    (foreignKeySection schema stored? allocator pairs).filter Statement.addsKey =
      foreignKeySection schema stored? allocator pairs := by
  refine List.filter_eq_self.mpr fun statement member => ?_
  obtain ⟨entry, _, name, rfl⟩ :=
    exists_of_mem_right (foreignKeySection_adds schema stored? allocator pairs) member
  rfl

/-- Roles and grants add no foreign key. -/
theorem grantSection_addsKey (schema : String) (options : Options) (objects : List ObjectNames) :
    (grantSection schema options objects).filter Statement.addsKey = [] := by
  refine List.filter_eq_nil_iff.mpr fun statement member => ?_
  rcases mem_grantSection member with ⟨_, rfl⟩ | ⟨_, rfl⟩ | ⟨_, _, _, rfl⟩ | ⟨_, _, rfl⟩ <;>
    exact Bool.false_ne_true

/-- The sequences of a script add no foreign key. -/
theorem sequenceSection_addsKey (schema : String) (names : List String) :
    (names.map fun name => Statement.createSequence schema (written name)).filter
      Statement.addsKey = [] := by
  refine List.filter_eq_nil_iff.mpr fun statement member => ?_
  obtain ⟨name, _, rfl⟩ := List.mem_map.mp member
  exact Bool.false_ne_true

/-- **No statement of a script needs what comes later or never.** -/
theorem isClosed_build (tables : List Table) (options : Options) :
    isClosed (build tables options).1 = true := by
  obtain ⟨allocator, script⟩ := statements_build tables options
  rw [isClosed, script]
  have creates := tableSection_creates (written options.schema) (objectNames tables).2
    (tables.zip (objectNames tables).1)
  have closed := fun known => closedAfter_tableSection known (written options.schema)
    (objectNames tables).2 (tables.zip (objectNames tables).1)
  have adds := foreignKeySection_adds (written options.schema)
    (storedName? tables (objectNames tables).1) allocator (tables.zip (objectNames tables).1)
  have paired := (zip_objectNames tables).2
  generalize (tableSection _ _ _).1 = tableStatements at creates closed ⊢
  generalize foreignKeySection _ _ _ _ = keyStatements at adds ⊢
  have there : ∀ pair ∈ tables.zip (objectNames tables).1,
      Created.table (written pair.2.table) ∈ tableStatements.flatMap Statement.created :=
    fun pair member => mem_created_of_creates creates (List.mem_map_of_mem member)
  simp only [closedAfter_append, after_created, Bool.and_eq_true]
  refine ⟨⟨closedAfter_of_forall fun statement member => ?_, closed _⟩,
    closedAfter_of_forall fun statement member => ?_, closedAfter_grantSection ?_ ?_⟩
  · obtain ⟨name, _, rfl⟩ := List.mem_map.mp member
    rfl
  · obtain ⟨⟨stored, key⟩, among, name, rfl⟩ := exists_of_mem_right adds member
    obtain ⟨entry, own, ofTable⟩ := List.mem_flatMap.mp among
    obtain ⟨pair, named, rfl⟩ := List.mem_map.mp own
    obtain ⟨_, _, same⟩ := List.mem_map.mp ofTable
    cases same
    refine List.contains_iff_mem.mpr ?_
    rw [List.flatMap_append]
    exact List.mem_append_right _ (List.mem_append_right _ (there pair named))
  · intro names member
    rw [← paired] at member
    obtain ⟨pair, among, rfl⟩ := List.mem_map.mp member
    simp only [List.flatMap_append, List.mem_append]
    exact .inl (.inr (.inr (there pair among)))
  · intro name member
    simp only [List.flatMap_append, List.mem_append]
    refine .inl (.inr (.inl (List.mem_flatMap.mpr ⟨_, List.mem_map_of_mem member, ?_⟩)))
    exact List.mem_singleton_self _

/-- **One table is created for each table of the source**, with its columns. -/
theorem build_builtFrom (tables : List Table) (options : Options) :
    List.Forall₂ (BuiltFrom (written options.schema)) tables
      (createdTables (build tables options).1) := by
  have own : (tables.zip (tableNames (tables.map Table.name)).1).map Prod.fst = tables := by
    refine List.map_fst_zip (Nat.le_of_eq ?_)
    rw [tableNames_length, List.length_map]
  have built : List.Forall₂ (BuiltFrom (written options.schema))
      ((tables.zip (tableNames (tables.map Table.name)).1).map Prod.fst)
      (createdTables (build tables options).1) :=
    List.forall₂_map_left_iff.mpr ((build_creates tables options).imp
      fun _ _ ⟨primaryKey, eq⟩ => ⟨_, primaryKey, eq⟩)
  rwa [own] at built

/-- No foreign key is added before the tables are there. -/
theorem front_addsKey (tables : List Table) (options : Options) :
    ((((objectNames tables).1.filterMap ObjectNames.sequence).map fun name =>
        Statement.createSequence (written options.schema) (written name)) ++
      (tableSection (written options.schema) (objectNames tables).2
        (tables.zip (objectNames tables).1)).1).filter Statement.addsKey = [] := by
  rw [List.filter_append, sequenceSection_addsKey, tableSection_addsKey]
  rfl

/-- **There is one statement for each foreign key of the tables**, in their order: what relates the
keys of the tables, beside their stored names, to the statements of the section relates the keys,
beside the names that the tables are created under, to the statements of the script. -/
theorem forall₂_addedKeys {related : String × ForeignKey → Statement → Prop} (tables : List Table)
    (options : Options)
    (each : ∀ entry statement, AddsStored (written options.schema)
      (storedName? tables (objectNames tables).1) entry statement →
        related (written entry.1, entry.2) statement) :
    List.Forall₂ related (keysOf (tables.zip (createdNames (build tables options).1)))
      (addedKeys (build tables options).1) := by
  obtain ⟨allocator, script⟩ := statements_build tables options
  have entries := keysOf_written
    ((tables.zip (objectNames tables).1).map fun pair => (pair.1, pair.2.table))
  rw [List.map_map] at entries
  rw [addedKeys, script, List.filter_append, front_addsKey, List.filter_append,
    foreignKeySection_addsKey, grantSection_addsKey, zip_createdNames, List.nil_append,
    List.append_nil]
  refine entries ▸ List.forall₂_map_left_iff.mpr ?_
  exact (foreignKeySection_adds (written options.schema)
    (storedName? tables (objectNames tables).1) allocator
    (tables.zip (objectNames tables).1)).imp each

/-- **A script needs nothing that comes later**, and its foreign keys stand between the tables that
it creates for those of the source, for all tables with different names: also for a table that
refers to itself or to a later one, and for one that was given another name than it asked for. -/
theorem build_standsAlone (tables : List Table) (options : Options)
    (distinct : (tables.map Table.name).Nodup) :
    StandsAlone tables options (build tables options).1 := by
  obtain ⟨all, paired⟩ := zip_objectNames tables
  obtain ⟨allocator, script⟩ := statements_build tables options
  have back : (foreignKeySection (written options.schema)
        (storedName? tables (objectNames tables).1) allocator (tables.zip (objectNames tables).1) ++
      grantSection (written options.schema) options (objectNames tables).1).filter
        Statement.createsTable = [] := by
    rw [List.filter_append, foreignKeySection_createsTable, grantSection_createsTable]
    rfl
  have different : ((tables.zip (objectNames tables).1).map fun pair => pair.1.name).Nodup := by
    rw [← all, List.map_map] at distinct
    exact distinct
  refine ⟨isClosed_build tables options, build_builtFrom tables options,
    ⟨_, _, script, front_addsKey tables options, back⟩,
    forall₂_addedKeys tables options fun entry statement added => ?_⟩
  rw [zip_createdNames]
  exact added.addsKey different all

/-- Two tables that ask for one name, with keys to themselves, to each other and to a table that is
not there. -/
def households : List Table :=
  [{ Table.named "public" "users" with foreignKeys :=
      [⟨"boss", ["boss_id"], "users", ["id"], "SET_NULL"⟩,
        ⟨"home", ["home_id"], "Users", ["id"], "NO_ACTION"⟩] },
    { Table.named "public" "Users" with foreignKeys :=
      [⟨"owner", ["owner_id"], "users", ["id"], "CASCADE"⟩,
        ⟨"city", ["city", "land"], "cities", ["name", "land"], "NO_ACTION"⟩] }]

theorem build_standsAlone_households :
    (households.map Table.name).Nodup ∧
      StandsAlone households inventoryOptions (build households inventoryOptions).1 ∧
      addedKeys (build households inventoryOptions).1 =
        [.addForeignKey "APP" "USERS" "FK_USERS_USERS" ["BOSS_ID"] "USERS" ["ID"]
            (some "SET NULL"),
          .addForeignKey "APP" "USERS" "FK_USERS_USERS_2" ["HOME_ID"] "USERS_2" ["ID"] none,
          .addForeignKey "APP" "USERS_2" "FK_USERS_USERS_3" ["OWNER_ID"] "USERS" ["ID"]
            (some "CASCADE"),
          .addForeignKey "APP" "USERS_2" "FK_USERS_CITIES" ["CITY", "LAND"] "CITIES"
            ["NAME", "LAND"] none] := by
  have distinct : (households.map Table.name).Nodup := by decide
  exact ⟨distinct, build_standsAlone households inventoryOptions distinct, by decide +kernel⟩

end SchemaFerry.Script
