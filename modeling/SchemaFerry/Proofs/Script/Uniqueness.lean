/-
**Unique indexes of a table that is created.**

An index over columns that are covered already gets no statement, whether or not it is unique. So of
the indexes over the same columns, up to the case of the letters `A` to `Z`, the first one gets a
statement (`keptIndexes`), with its own uniqueness, unless the primary key is over these columns
(`mem_keptIndexes_iff`).

* **`tableStatements_keepsUnique`** — the statements for a table make it refuse rows that agree in
  the columns of a unique index if the primary key or the first index over these columns does, and
  only then if no other columns are written like them;
* `tableStatements_loses_unique` — a unique index behind another one over its column is lost.
-/

import SchemaFerry.Proofs.Script.Distinct

namespace SchemaFerry.Identifier

open SchemaFerry.Text

/-! ### Letters that differ in case -/

/-- A letter `A` to `Z` and its small letter have the same capital form, and neither is blank. -/
theorem upperLetter_toLower (letter : Char) :
    upperLetter letter.toLower = upperLetter letter ∧
      isBlank letter.toLower = isBlank letter := by
  by_cases ascii : letter.toNat < 0x80
  · have all : ∀ code < 0x80,
        upperLetter (Char.ofNat code).toLower = upperLetter (Char.ofNat code) ∧
          isBlank (Char.ofNat code).toLower = isBlank (Char.ofNat code) := by
      decide +kernel
    have same := all letter.toNat ascii
    rwa [Char.ofNat_toNat] at same
  · have fixed : letter.toLower = letter := by
      unfold Char.toLower
      rw [dif_neg]
      rintro ⟨_, most⟩
      exact ascii (Nat.lt_of_le_of_lt (UInt32.le_iff_toNat_le.mp most) (by decide))
    rw [fixed]
    exact ⟨rfl, rfl⟩

theorem trim_map_toLower (letters : List Char) :
    trim (letters.map Char.toLower) = (trim letters).map Char.toLower := by
  have blank : isBlank ∘ Char.toLower = isBlank := funext fun letter =>
    (upperLetter_toLower letter).2
  rw [trim, trim, trimEnd, trimEnd, trimStart, trimStart, List.dropWhile_map, blank,
    ← List.map_reverse, List.dropWhile_map, blank, List.map_reverse]

theorem upper_map_toLower (letters : List Char) :
    upper (letters.map Char.toLower) = upper letters := by
  rw [upper, upper, List.flatMap_map]
  exact congrArg (List.flatMap · letters) (funext fun letter => (upperLetter_toLower letter).1)

/-- **Names that differ only in the case of `A` to `Z` are written alike.** -/
theorem written_eq_of_sameLetters {first second : String} (same : sameLetters first second = true) :
    written first = written second := by
  have forms : ∀ name : String, upper (trim name.toList) =
      upper (trim (name.toList.map Char.toLower)) := by
    intro name
    rw [trim_map_toLower, upper_map_toLower]
  have small : first.toList.map Char.toLower = second.toList.map Char.toLower :=
    eq_of_beq same
  have stored : normalize first = normalize second := by
    rw [normalize, normalize, uppercased, uppercased, trimmed, trimmed, String.toList_ofList,
      String.toList_ofList, forms first, small, ← forms second]
  rw [written, written, stored]

end SchemaFerry.Identifier

namespace SchemaFerry.Script

open SchemaFerry.Identifier SchemaFerry.Schema SchemaFerry.Text

/-! ### Lists of columns -/

/-- **Lists of columns are the same exactly if they are equal in small letters.** -/
theorem sameColumns_iff {first second : List String} :
    sameColumns first second = true ↔
      first.map (fun name => name.toList.map Char.toLower) =
        second.map fun name => name.toList.map Char.toLower := by
  induction first generalizing second with
  | nil => cases second <;> simp [sameColumns]
  | cons name rest ih =>
    cases second with
    | nil => simp [sameColumns]
    | cons other others =>
      have tail := @ih others
      simp only [sameColumns, List.length_cons, Bool.and_eq_true, beq_iff_eq, List.zip_cons_cons,
        List.all_cons, List.map_cons, List.cons.injEq, Nat.add_right_cancel_iff] at tail ⊢
      rw [← tail, sameLetters, beq_iff_eq]
      tauto

theorem sameColumns_refl (columns : List String) : sameColumns columns columns = true :=
  sameColumns_iff.mpr rfl

theorem sameColumns_trans {first second third : List String}
    (one : sameColumns first second = true) (other : sameColumns second third = true) :
    sameColumns first third = true :=
  sameColumns_iff.mpr ((sameColumns_iff.mp one).trans (sameColumns_iff.mp other))

/-- The same columns are written alike. -/
theorem map_written_eq_of_sameColumns {first second : List String}
    (same : sameColumns first second = true) : first.map written = second.map written := by
  rw [sameColumns, Bool.and_eq_true, beq_iff_eq] at same
  refine List.ext_getElem (by rw [List.length_map, List.length_map, same.1]) ?_
  intro position within also
  rw [List.length_map] at within also
  rw [List.getElem_map, List.getElem_map]
  refine written_eq_of_sameLetters (List.all_eq_true.mp same.2
    (first[position], second[position]) (List.mem_iff_getElem.mpr ⟨position, ?_, ?_⟩))
  · rw [List.length_zip]
    omega
  · rw [List.getElem_zip]

/-! ### The indexes that get a statement -/

/-- A statement creates an index of a table under a stored name. -/
def CreatesIndex (schema stored : String) (index : Index) (statement : Statement) : Prop :=
  ∃ name, statement = .createIndex schema (written stored) (written name) index.isUnique
    (index.columns.map written)

/-- **The indexes that are kept get a statement each**, with their uniqueness and their columns. -/
theorem indexStatements_creates (schema stored : String) (table : Table) (allocator : Allocator)
    (covered : List (List String)) (indexes : List Index) :
    List.Forall₂ (CreatesIndex schema stored) (keptIndexes covered indexes)
      (indexStatements schema stored table allocator covered indexes).1 := by
  induction indexes generalizing allocator covered with
  | nil => exact .nil
  | cons index rest ih =>
    rw [keptIndexes, indexStatements]
    by_cases known : covered.any (sameColumns · index.columns) = true
    · rw [if_pos known, if_pos known]
      exact ih allocator covered
    · rw [if_neg known, if_neg known]
      exact .cons ⟨_, rfl⟩ (ih _ _)

/-- The first index over columns, up to the case of `A` to `Z`. -/
def firstOver (columns : List String) (indexes : List Index) : Option Index :=
  indexes.find? fun index => sameColumns index.columns columns

theorem firstOver_cons_of_same {columns : List String} {first : Index}
    (same : sameColumns first.columns columns = true) (rest : List Index) :
    firstOver columns (first :: rest) = some first :=
  List.find?_cons_of_pos same

theorem firstOver_cons_of_other {columns : List String} {first : Index}
    (other : sameColumns first.columns columns = false) (rest : List Index) :
    firstOver columns (first :: rest) = firstOver columns rest :=
  List.find?_cons_of_neg (by rw [other]; exact Bool.false_ne_true)

/-- The first index over columns is also the first one over the same columns. -/
theorem firstOver_eq_of_same {first second : List String} (same : sameColumns first second = true)
    (indexes : List Index) : firstOver first indexes = firstOver second indexes := by
  refine congrArg (List.find? · indexes) (funext fun index => ?_)
  rw [Bool.eq_iff_iff, sameColumns_iff, sameColumns_iff, sameColumns_iff.mp same]

/-- **An index is kept exactly if it is the first one over its columns** and these are not covered
before. -/
theorem mem_keptIndexes_iff {covered : List (List String)} {indexes : List Index} {index : Index} :
    index ∈ keptIndexes covered indexes ↔
      (∀ columns ∈ covered, sameColumns columns index.columns = false) ∧
        firstOver index.columns indexes = some index := by
  induction indexes generalizing covered with
  | nil => simp [keptIndexes, firstOver]
  | cons first rest ih =>
    rw [keptIndexes]
    by_cases known : covered.any (sameColumns · first.columns) = true
    · rw [if_pos known, ih]
      refine and_congr_right fun free => ?_
      -- What covers the first index would cover an index over the same columns.
      have other : sameColumns first.columns index.columns = false := by
        obtain ⟨columns, member, same⟩ := List.any_eq_true.mp known
        rw [← Bool.not_eq_true]
        intro alike
        have covers := sameColumns_trans same alike
        rw [free columns member] at covers
        cases covers
      rw [firstOver_cons_of_other other]
    · rw [if_neg known, List.mem_cons, ih]
      cases alike : sameColumns first.columns index.columns with
      | true =>
        rw [firstOver_cons_of_same alike, Option.some.injEq]
        constructor
        · rintro (rfl | ⟨free, _⟩)
          · refine ⟨fun columns member => ?_, rfl⟩
            rw [← Bool.not_eq_true]
            exact fun same => known (List.any_eq_true.mpr ⟨columns, member, same⟩)
          · have last := free first.columns (List.mem_append_right _ List.mem_cons_self)
            rw [alike] at last
            cases last
        · rintro ⟨_, rfl⟩
          exact .inl rfl
      | false =>
        rw [firstOver_cons_of_other alike]
        have differ : index ≠ first := by
          rintro rfl
          rw [sameColumns_refl] at alike
          cases alike
        simp only [differ, false_or, List.forall_mem_append, List.forall_mem_singleton, alike,
          and_true]

/-! ### The statements of a table -/

/-- The columns that are covered before any index of a table is: those of the primary key. -/
def coveredByKey (table : Table) : List (List String) :=
  if table.hasPrimaryKey then [table.primaryKey] else []

/-- Whether the primary key of a table is over columns, up to the case of `A` to `Z`. -/
def isKeyOver (table : Table) (columns : List String) : Bool :=
  table.hasPrimaryKey && sameColumns table.primaryKey columns

/-- The primary key of a table, if it has one, under the name that is handed out for it. -/
def namedKey (table : Table) (allocator : Allocator) : Option PrimaryKey × Allocator :=
  if table.hasPrimaryKey then
    (some ⟨written (allocator.next (primaryKeyRequest table)), table.primaryKey.map written⟩,
      (allocator.allocate (primaryKeyRequest table)).2)
  else (none, allocator)

theorem namedKey_columns (table : Table) (allocator : Allocator) :
    (namedKey table allocator).1.map PrimaryKey.columns =
      if table.hasPrimaryKey then some (table.primaryKey.map written) else none := by
  unfold namedKey
  cases table.hasPrimaryKey with
  | true => rfl
  | false => rfl

/-- **The statements of a table**: a comment, the table with its primary key, and its indexes; and
the warnings of its columns and then of its indexes. -/
theorem tableStatements_split (schema stored : String) (table : Table) (allocator : Allocator) :
    let indexes := indexStatements schema stored table (namedKey table allocator).2
      (coveredByKey table) table.indexes
    tableStatements schema stored table allocator =
      (.comment ("Table: " ++ written stored) :: .createTable schema (written stored)
          (table.columns.map columnDefinition) (namedKey table allocator).1 :: indexes.1,
        table.columns.flatMap (columnWarnings table.name) ++ indexes.2.1, indexes.2.2) :=
  rfl

/-- Whether a statement makes a table refuse two rows that agree in columns; the names are written
names. -/
def Statement.enforcesUnique (table : String) (columns : List String) : Statement → Bool
  | .createTable _ name _ primaryKey =>
    name == table && primaryKey.any fun key => key.columns == columns
  | .createIndex _ indexed _ isUnique names => indexed == table && (isUnique && names == columns)
  | _ => false

theorem enforcesUnique_createTable_iff {schema name table : String}
    {definitions : List ColumnDefinition} {primaryKey : Option PrimaryKey}
    {columns : List String} :
    (Statement.createTable schema name definitions primaryKey).enforcesUnique table columns = true ↔
      name = table ∧ ∃ key, primaryKey = some key ∧ key.columns = columns := by
  simp only [Statement.enforcesUnique, Bool.and_eq_true, beq_iff_eq, Option.any_eq_true]

theorem enforcesUnique_createIndex_iff {schema indexed name table : String} {isUnique : Bool}
    {names columns : List String} :
    (Statement.createIndex schema indexed name isUnique names).enforcesUnique table columns = true ↔
      indexed = table ∧ isUnique = true ∧ names = columns := by
  simp only [Statement.enforcesUnique, Bool.and_eq_true, beq_iff_eq]

/-- **Statements make a table refuse two rows that agree in columns.** The table is created under a
stored name, and the columns have names of the source. -/
def EnforceUnique (statements : List Statement) (stored : String) (columns : List String) : Prop :=
  ∃ statement ∈ statements,
    statement.enforcesUnique (written stored) (columns.map written) = true

/-- No other columns of the primary key or of an index are written like these. -/
structure AreWrittenApart (table : Table) (columns : List String) : Prop where
  key : table.hasPrimaryKey = true → table.primaryKey.map written = columns.map written →
    sameColumns table.primaryKey columns = true
  indexes : ∀ index ∈ table.indexes, index.columns.map written = columns.map written →
    sameColumns index.columns columns = true

/-- **What the statements of a table make it refuse.**

* `enforced_iff` — rows that agree in columns are refused exactly if the primary key or an index
  that is kept and unique is over columns that are written like them;
* `kept` — they are if the primary key is over these columns, or the first index over them is
  unique;
* `kept_iff` — and only then if no other columns are written like them. -/
structure KeepsUnique (table : Table) (stored : String) (statements : List Statement) : Prop where
  enforced_iff : ∀ columns, EnforceUnique statements stored columns ↔
    (table.hasPrimaryKey = true ∧ table.primaryKey.map written = columns.map written) ∨
      ∃ index ∈ keptIndexes (coveredByKey table) table.indexes,
        index.isUnique = true ∧ index.columns.map written = columns.map written
  kept : ∀ columns, (isKeyOver table columns = true ∨
      ∃ first, firstOver columns table.indexes = some first ∧ first.isUnique = true) →
    EnforceUnique statements stored columns
  kept_iff : ∀ columns, AreWrittenApart table columns →
    (EnforceUnique statements stored columns ↔ isKeyOver table columns = true ∨
      ∃ first, firstOver columns table.indexes = some first ∧ first.isUnique = true)

/-- The statements of indexes enforce what the unique ones among those that are kept are over. -/
theorem enforceUnique_indexes_iff {schema stored : String} {kept : List Index}
    {statements : List Statement}
    (creates : List.Forall₂ (CreatesIndex schema stored) kept statements) (columns : List String) :
    EnforceUnique statements stored columns ↔
      ∃ index ∈ kept, index.isUnique = true ∧ index.columns.map written = columns.map written := by
  rw [EnforceUnique]
  induction creates with
  | nil => simp only [List.not_mem_nil, false_and, exists_false]
  | cons one _ ih =>
    obtain ⟨name, rfl⟩ := one
    rw [List.exists_mem_cons_iff, List.exists_mem_cons_iff, ih, enforcesUnique_createIndex_iff]
    simp only [true_and]

/-- **What the statements of a table enforce.** -/
theorem enforceUnique_tableStatements_iff (schema stored : String) (table : Table)
    (allocator : Allocator) (columns : List String) :
    EnforceUnique (tableStatements schema stored table allocator).1 stored columns ↔
      (table.hasPrimaryKey = true ∧ table.primaryKey.map written = columns.map written) ∨
        ∃ index ∈ keptIndexes (coveredByKey table) table.indexes,
          index.isUnique = true ∧ index.columns.map written = columns.map written := by
  have keyed : (∃ key, (namedKey table allocator).1 = some key ∧
      key.columns = columns.map written) ↔
        table.hasPrimaryKey = true ∧ table.primaryKey.map written = columns.map written := by
    rw [← Option.map_eq_some_iff, namedKey_columns]
    cases table.hasPrimaryKey with
    | true => simp only [if_true, Option.some.injEq, true_and]
    | false => simp only [Bool.false_eq_true, if_false, reduceCtorEq, false_and]
  have comment : (Statement.comment ("Table: " ++ written stored)).enforcesUnique (written stored)
      (columns.map written) = false := rfl
  rw [← enforceUnique_indexes_iff (indexStatements_creates schema stored table
    (namedKey table allocator).2 (coveredByKey table) table.indexes), EnforceUnique,
    tableStatements_split, List.exists_mem_cons_iff, List.exists_mem_cons_iff,
    enforcesUnique_createTable_iff, comment, keyed]
  simp only [Bool.false_eq_true, false_or, true_and, EnforceUnique]

/-- What the primary key is not over is not covered by it. -/
theorem not_covered_of_not_isKeyOver {table : Table} {columns : List String}
    (free : isKeyOver table columns = false) :
    ∀ covered ∈ coveredByKey table, sameColumns covered columns = false := by
  rw [isKeyOver] at free
  rw [coveredByKey]
  intro covered member
  cases key : table.hasPrimaryKey with
  | true =>
    rw [key, if_pos rfl, List.mem_singleton] at member
    rwa [member, ← Bool.true_and (sameColumns table.primaryKey columns), ← key]
  | false =>
    rw [key] at member
    cases member

/-- **The statements of a table keep what the primary key or the first index over columns
refuses.** -/
theorem tableStatements_keepsUnique (schema stored : String) (table : Table)
    (allocator : Allocator) :
    KeepsUnique table stored (tableStatements schema stored table allocator).1 := by
  have enforced := enforceUnique_tableStatements_iff schema stored table allocator
  have kept : ∀ columns, (isKeyOver table columns = true ∨
      ∃ first, firstOver columns table.indexes = some first ∧ first.isUnique = true) →
        EnforceUnique (tableStatements schema stored table allocator).1 stored columns := by
    intro columns covers
    rw [enforced]
    cases key : isKeyOver table columns with
    | true =>
      rw [isKeyOver, Bool.and_eq_true] at key
      exact .inl ⟨key.1, map_written_eq_of_sameColumns key.2⟩
    | false =>
      rw [key] at covers
      obtain ⟨first, found, isUnique⟩ := covers.resolve_left Bool.false_ne_true
      have same : sameColumns first.columns columns = true := by
        rw [firstOver] at found
        exact (List.find?_some found : _)
      rw [← firstOver_eq_of_same same] at found
      refine .inr ⟨first, mem_keptIndexes_iff.mpr ⟨fun covered member => ?_, found⟩, isUnique,
        map_written_eq_of_sameColumns same⟩
      have free := not_covered_of_not_isKeyOver key covered member
      rw [← Bool.not_eq_true] at free ⊢
      exact fun alike => free (sameColumns_trans alike same)
  refine ⟨enforced, kept, fun columns apart => ⟨fun enforces => ?_, kept columns⟩⟩
  rcases (enforced columns).mp enforces with ⟨hasKey, alike⟩ | ⟨index, member, isUnique, alike⟩
  · left
    rw [isKeyOver, hasKey, apart.key hasKey alike]
    rfl
  · right
    obtain ⟨_, found⟩ := mem_keptIndexes_iff.mp member
    have same := apart.indexes index (List.mem_of_find?_eq_some found) alike
    rw [firstOver_eq_of_same same] at found
    exact ⟨index, found, isUnique⟩

/-- A table whose unique index stands behind another one over its column, as their names have
it. -/
def members : Table :=
  { Table.named "public" "members" with
    columns := [⟨"id", "integer", "int4", none, none, none, false, none, false⟩,
      ⟨"name", "character varying", "varchar", none, none, none, true, none, false⟩]
    primaryKey := ["id"]
    indexes := [⟨"members_name_idx", false, ["name"]⟩, ⟨"members_name_key", true, ["name"]⟩] }

/-- **A unique index is lost**: the statements for the table let two rows agree in its column. -/
theorem tableStatements_loses_unique :
    (⟨"members_name_key", true, ["name"]⟩ : Index) ∈ members.indexes ∧
      ¬ EnforceUnique (tableStatements "APP" "MEMBERS" members .empty).1 "MEMBERS" ["name"] := by
  refine ⟨by decide, ?_⟩
  rintro ⟨statement, member, enforces⟩
  have nowhere : (tableStatements "APP" "MEMBERS" members .empty).1.all (fun statement =>
      !statement.enforcesUnique (written "MEMBERS") (["name"].map written)) = true := by
    decide +kernel
  have lost := List.all_eq_true.mp nowhere statement member
  rw [enforces] at lost
  cases lost

end SchemaFerry.Script
