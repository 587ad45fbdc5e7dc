/-
**The table that a sequence backs.**

A sequence is created for a table under a name that is made of the table's, and afterwards the table
is looked for by what follows the lead in that name. That name is cut like any other, and it may
have been renamed, so the table that is found need not be the one that the sequence backs: whatever
table is created under the very name that is left is taken for it.

* **`lookUp_resolves`** — the exact condition: a sequence is led to the table of another exactly if
  such a table is created, or if the sequence's name may have been cut and only the name of another
  table starts with what is left; the latter never happens to a table that was given the names that
  it asked for, for itself and for its sequence;
* `lookUp_misleads` — two tables with different names, of which the sequence of one is led to the
  other.
-/

import SchemaFerry.Proofs.Script.Closed
import SchemaFerry.Proofs.Sequences.Synchronizing

namespace SchemaFerry.Sequences

open SchemaFerry.Identifier SchemaFerry.Schema SchemaFerry.Script SchemaFerry.Text

/-! ### What a script leaves in the destination -/

/-- The written name of the sequence that a statement creates. -/
def sequenceName? : Statement → Option String
  | .createSequence _ name => some name
  | _ => none

/-- A script creates a table that the destination lists under a name. -/
def IsListed (sections : List Section) (name : String) : Prop :=
  ∃ token ∈ createdNames sections, read? token = some name

/-- **A destination holds exactly what a script creates**, and answers every call. -/
structure Holds (memory : Memory) (sections : List Section) : Prop where
  tables : ∀ name, name ∈ memory.tables.map Prod.fst ↔ IsListed sections name
  sequences : ∀ name, name ∈ memory.sequences.map Prod.fst ↔
    ∃ token ∈ (statements sections).filterMap sequenceName?, read? token = some name
  once : (memory.tables.map Prod.fst).Nodup
  failures : memory.failures = []
  answers : memory.answers = []

/-- A table and its sequence in a script: the names under which the destination lists them, and the
name of a table that is derived from that of the sequence. -/
structure Backs (tables : List Table) (table : Table) (names : ObjectNames)
    (own sequence name : String) : Prop where
  created : (table, names) ∈ tables.zip (objectNames tables).1
  stands : read? (written names.table) = some own
  draws : ∃ stored, names.sequence = some stored ∧ read? (written stored) = some sequence
  derived : table? sequence = some name

/-- A lookup finds a table other than the own one. -/
def Misleads (own : String) (lookup : Lookup) : Prop :=
  ∃ other, other ≠ own ∧ lookup = .found other

/-- **What is found for a sequence**, by the tables that a script creates. -/
structure Resolves (sections : List Section) (table : Table) (names : ObjectNames)
    (own sequence name : String) (lookup : Lookup) : Prop where
  listed : ∀ found, lookup = .found found → IsListed sections found
  misled_iff : Misleads own lookup ↔
    (IsListed sections name ∧ name ≠ own) ∨
      (¬IsListed sections name ∧ maxLength ≤ sequence.length ∧ ∃ other ≠ own, ∀ found,
        (IsListed sections found ∧ name.toList <+: found.toList) ↔ found = other)
  misled_iff_of_unrenamed : tableRenaming? table names = none →
    sequenceRenaming? table names = none →
      (Misleads own lookup ↔ IsListed sections name ∧ name ≠ own)

section Backing

variable {tables : List Table} {options : Options} {table : Table} {names : ObjectNames}
  {own sequence name : String}

theorem isListed_build {tables : List Table} {found : String} :
    IsListed (build tables options).1 found ↔
      ∃ stored ∈ (tableNames (tables.map Table.name)).1, normalize stored = found := by
  rw [IsListed, createdNames_build]
  constructor
  · rintro ⟨_, member, read⟩
    obtain ⟨stored, among, rfl⟩ := List.mem_map.mp member
    rw [read?_written, Option.some.injEq] at read
    exact ⟨stored, among, read⟩
  · rintro ⟨stored, among, rfl⟩
    exact ⟨_, List.mem_map_of_mem among, read?_written stored⟩

/-- **The sequences are created under the names that were handed out to them.** -/
theorem createdSequences_build (tables : List Table) (options : Options) :
    (statements (build tables options).1).filterMap sequenceName? =
      ((objectNames tables).1.filterMap ObjectNames.sequence).map written := by
  have named : sequenceName? = fun statement => (sequencePlace? statement).map Prod.snd := by
    funext statement
    cases statement <;> rfl
  have places := sequencePlaces_build tables options
  rw [sequencePlaces] at places
  simp only [named, ← List.map_filterMap, places, List.map_map, Function.comp_def]

/-- What is listed does not start with a blank. -/
theorem start_of_isListed {tables : List Table} {found : String}
    (listed : IsListed (build tables options).1 found) {first : Char} {rest : List Char}
    (shape : found.toList = first :: rest) : isBlank first = false := by
  obtain ⟨stored, _, rfl⟩ := isListed_build.mp listed
  exact (isStored_normalize stored).start first rest shape

/-- The own table is listed. -/
theorem Backs.isListed (backs : Backs tables table names own sequence name) :
    IsListed (build tables options).1 own := by
  have read := backs.stands
  rw [read?_written, Option.some.injEq] at read
  refine isListed_build.mpr ⟨names.table, ?_, read⟩
  rw [← objectNames_table]
  exact List.mem_map_of_mem (List.of_mem_zip backs.created).2

theorem table?_eq_some {sequence name : String} (derived : table? sequence = some name) :
    sequence.toList = sequenceLead.toList ++ name.toList ∧ name.toList ≠ [] := by
  unfold table? at derived
  split at derived
  · next first rest cut =>
    cases derived
    rw [String.toList_ofList]
    exact ⟨afterLead?_eq_some cut, List.cons_ne_nil _ _⟩
  · cases derived

theorem sequenceName_toList (name : String) :
    (sequenceName name).toList =
      sequenceLead.toList ++ (upper name.toList).take (maxLength - 4) := by
  rw [sequenceName, truncate, String.toList_ofList, String.toList_append, uppercased,
    String.toList_ofList, List.take_append]
  rfl

/-- The conventional name of a sequence is a stored name. -/
theorem isStored_sequenceName (name : String) : IsStored (sequenceName name) where
  fixed letter member := by
    rw [sequenceName_toList, List.mem_append] at member
    rcases member with lead | own
    · have word : IsFolded sequenceLead := isFolded_of_capitals fun letter member => by
        fin_cases member <;> exact ⟨by decide, by decide⟩
      exact word.fixed letter lead
    · exact upperLetter_of_mem_upper (List.mem_of_mem_take own)
  start first rest shape := by
    rw [sequenceName_toList] at shape
    cases shape
    decide
  short := truncate_length _ _

/-- What a sequence of a script is asked for under. -/
theorem sequence_withSequence {tables : List Table} {table : Table} {wanted : String}
    (member : table ∈ tables.map Table.withSequence) (needs : table.sequence = some wanted) :
    wanted = sequenceName table.name := by
  obtain ⟨source, _, rfl⟩ := List.mem_map.mp member
  simp only [Table.withSequence] at needs ⊢
  split at needs
  · exact (Option.some.inj needs).symm
  · cases needs

/-- **The name that is derived** for a table and a sequence that were not renamed is a front of the
table's name in capitals. -/
theorem Backs.derived_isFront
    (backs : Backs (tables.map Table.withSequence) table names own sequence name)
    (unrenamed : sequenceRenaming? table names = none) :
    name.toList <+: (upper table.name.toList).take (maxLength - 4) ∧
      ∀ start last, name.toList = start ++ [last] → isBlank last = false := by
  obtain ⟨stored, given, read⟩ := backs.draws
  rw [read?_written, Option.some.injEq] at read
  have asked : table.sequence.isSome = true := by
    rw [← isSome_sequence backs.created, given]
    rfl
  obtain ⟨wanted, needs⟩ := Option.isSome_iff_exists.mp asked
  obtain rfl := sequence_withSequence (List.of_mem_zip backs.created).1 needs
  have kept : stored = normalize (sequenceName table.name) := by
    by_contra other
    simp [sequenceRenaming?, needs, given, other] at unrenamed
  obtain ⟨lead, _⟩ := table?_eq_some backs.derived
  have letters : sequence.toList = trimEnd stored.toList := by
    rw [← read, kept, (isStored_normalize _).normalize_toList]
  constructor
  · have within : sequence.toList <+: (sequenceName table.name).toList := by
      rw [letters, kept, (isStored_sequenceName _).normalize_toList]
      exact (trimEnd_isFront _).trans (trimEnd_isFront _)
    rw [lead, sequenceName_toList] at within
    exact (List.prefix_append_right_inj _).mp within
  · intro start last shape
    have whole : trimEnd stored.toList = (sequenceLead.toList ++ start) ++ [last] := by
      rw [← letters, lead, shape, List.append_assoc]
    exact trimEnd_last whole

/-- **A table and a sequence that were not renamed**: the listed name of the table starts with the
name that is derived, unless that starts with a blank. -/
theorem Backs.isFront_own
    (backs : Backs (tables.map Table.withSequence) table names own sequence name)
    (tableKept : tableRenaming? table names = none)
    (sequenceKept : sequenceRenaming? table names = none)
    (start : ∀ first rest, name.toList = first :: rest → isBlank first = false) :
    name.toList <+: own.toList := by
  obtain ⟨isFront, finish⟩ := backs.derived_isFront sequenceKept
  obtain ⟨_, named⟩ := table?_eq_some backs.derived
  have kept : names.table = normalize table.name := by
    by_contra other
    simp [tableRenaming?, other] at tableKept
  have letters : own.toList = trimEnd ((upper (trim table.name.toList)).take maxLength) := by
    have read := backs.stands
    rw [read?_written, Option.some.injEq] at read
    rw [← read, kept, (isStored_normalize _).normalize_toList, normalize_toList]
  -- The table's name does not start with a blank, as its capital form does not.
  have plain : trimStart table.name.toList = table.name.toList := by
    refine trimStart_eq_self fun letter rest shape => ?_
    by_contra blank
    rw [Bool.not_eq_false] at blank
    obtain ⟨first, tail, parts⟩ := List.exists_cons_of_ne_nil named
    obtain ⟨more, whole⟩ := isFront.trans (List.take_prefix _ _)
    rw [shape, upper, List.flatMap_cons, upperLetter_of_isBlank blank, parts] at whole
    have same : first = letter := (List.cons.inj whole).1
    rw [← same, start first tail parts] at blank
    cases blank
  obtain ⟨blanks, split, blank⟩ := exists_blanks table.name.toList
  have capitals : upper table.name.toList = upper (trim table.name.toList) ++ blanks := by
    rw [trim, plain]
    conv_lhs => rw [split]
    rw [upper_append,
      upper_eq_self fun letter member => upperLetter_of_isBlank (blank letter member)]
  have inside : name.toList <+: upper (trim table.name.toList) := by
    refine isFront_of_blanks ?_ blank finish
    rw [← capitals]
    exact isFront.trans (List.take_prefix _ _)
  obtain ⟨others, cut, alsoBlank⟩ :=
    exists_blanks ((upper (trim table.name.toList)).take maxLength)
  rw [letters]
  refine isFront_of_blanks ?_ alsoBlank finish
  rw [← cut]
  refine List.prefix_take_iff.mpr ⟨inside, ?_⟩
  have short := isFront.length_le
  rw [List.length_take] at short
  omega

end Backing

/-! ### What is found -/

theorem Lookup.among_eq_found_iff {sequence name other : String} {candidates : List String} :
    Lookup.among sequence name candidates = .found other ↔
      (name ∈ candidates ∧ other = name) ∨
        (name ∉ candidates ∧ maxLength ≤ sequence.length ∧ candidates = [other]) := by
  unfold Lookup.among
  by_cases exact : name ∈ candidates
  · rw [if_pos (List.contains_iff_mem.mpr exact)]
    simp only [Lookup.found.injEq, exact, true_and, not_true_eq_false, false_and, or_false]
    exact eq_comm
  · rw [if_neg (by rwa [List.contains_iff_mem])]
    by_cases short : sequence.length < maxLength
    · rw [if_pos short]
      simp [exact, Nat.not_le.mpr short]
    · rw [if_neg short]
      have long := Nat.le_of_not_lt short
      split <;> simp_all

/-- A destination that answers every call looks a name up among the tables that start with it. -/
theorem result_lookUp {memory : Memory} (failures : memory.failures = [])
    (answers : memory.answers = []) (sequence name : String) :
    ((lookUp Memory.operations sequence name).result memory).1 =
      .ok (Lookup.among sequence name ((memory.tables.map Prod.fst).filter fun listed =>
        name.toList.isPrefixOf listed.toList)) := by
  rcases Memory.serve_cases (.tablesStartingWith name)
    (fun known => (.ok (known.tablesFrom name), known)) memory with ⟨fails, _⟩ | served
  · rw [Memory.fails, failures] at fails
    cases fails
  · have searched : (Memory.operations.tablesStartingWith name).result memory =
        (.ok ((memory.noting (.tablesStartingWith name)).tablesFrom name),
          memory.noting (.tablesStartingWith name)) := served
    have unset : (memory.noting (.tablesStartingWith name)).answers = [] := answers
    rw [lookUp, Session.result_bind, searched]
    show Except.ok (Lookup.among sequence name
      ((memory.noting (.tablesStartingWith name)).tablesFrom name)) = _
    rw [Memory.tablesFrom, unset]
    rfl

/-- A list without repetitions has one member exactly if it is the list of that member. -/
theorem eq_singleton_iff {candidates : List String} (once : candidates.Nodup) {other : String} :
    candidates = [other] ↔ ∀ found, found ∈ candidates ↔ found = other := by
  constructor
  · rintro rfl found
    exact List.mem_singleton
  · intro only
    have same := List.perm_ext_iff_of_nodup once (List.nodup_singleton other)
    refine List.perm_singleton.mp (same.mpr fun found => ?_)
    rw [only, List.mem_singleton]

/-- **A lookup among the tables that start with a name** finds another than the own one in two
cases. -/
theorem misleads_among_iff {listed : String → Prop} {candidates : List String}
    (once : candidates.Nodup) (own sequence : String) {name : String}
    (candidate : ∀ found, found ∈ candidates ↔ listed found ∧ name.toList <+: found.toList) :
    Misleads own (Lookup.among sequence name candidates) ↔
      (listed name ∧ name ≠ own) ∨
        (¬listed name ∧ maxLength ≤ sequence.length ∧ ∃ other ≠ own, ∀ found,
          (listed found ∧ name.toList <+: found.toList) ↔ found = other) := by
  have exact : name ∈ candidates ↔ listed name := by
    rw [candidate]
    exact and_iff_left List.prefix_rfl
  constructor
  · rintro ⟨other, different, found⟩
    rcases Lookup.among_eq_found_iff.mp found with ⟨member, rfl⟩ | ⟨missing, long, rfl⟩
    · exact .inl ⟨exact.mp member, different⟩
    · refine .inr ⟨mt exact.mpr missing, long, other, different, fun found => ?_⟩
      rw [← candidate, List.mem_singleton]
  · rintro (⟨there, different⟩ | ⟨missing, long, other, different, only⟩)
    · exact ⟨name, different, Lookup.among_eq_found_iff.mpr (.inl ⟨exact.mpr there, rfl⟩)⟩
    · have single : candidates = [other] :=
        (eq_singleton_iff once).mpr fun found => (candidate found).trans (only found)
      exact ⟨other, different,
        Lookup.among_eq_found_iff.mpr (.inr ⟨mt exact.mp missing, long, single⟩)⟩

section Resolving

variable {tables : List Table} {options : Options} {memory : Memory} {table : Table}
  {names : ObjectNames} {own sequence name : String}

/-- **A table and a sequence that were not renamed**: no other table is the only one whose listed
name starts with the name that is derived. -/
theorem Backs.eq_own_of_only
    (backs : Backs (tables.map Table.withSequence) table names own sequence name)
    (tableKept : tableRenaming? table names = none)
    (sequenceKept : sequenceRenaming? table names = none) {other : String}
    (only : ∀ found, (IsListed (build (tables.map Table.withSequence) options).1 found ∧
      name.toList <+: found.toList) ↔ found = other) : other = own := by
  obtain ⟨listed, front⟩ := (only other).mpr rfl
  have start : ∀ first rest, name.toList = first :: rest → isBlank first = false := by
    intro first rest shape
    obtain ⟨more, whole⟩ := front
    rw [shape] at whole
    exact start_of_isListed listed whole.symm
  exact ((only own).mp ⟨backs.isListed, backs.isFront_own tableKept sequenceKept start⟩).symm

/-- **What is found for a sequence** in a destination that holds exactly what a script creates. -/
theorem lookUp_resolves
    (holds : Holds memory (build (tables.map Table.withSequence) options).1)
    (backs : Backs (tables.map Table.withSequence) table names own sequence name) :
    ∃ lookup, ((lookUp Memory.operations sequence name).result memory).1 = .ok lookup ∧
      Resolves (build (tables.map Table.withSequence) options).1 table names own sequence name
        lookup := by
  refine ⟨_, result_lookUp holds.failures holds.answers sequence name, ?_⟩
  have candidate : ∀ found, found ∈ ((memory.tables.map Prod.fst).filter fun listed =>
        name.toList.isPrefixOf listed.toList) ↔
      IsListed (build (tables.map Table.withSequence) options).1 found ∧
        name.toList <+: found.toList := by
    intro found
    rw [List.mem_filter, holds.tables, List.isPrefixOf_iff_prefix]
  have misled := misleads_among_iff (holds.once.filter _) own sequence candidate
  refine ⟨?_, misled, fun tableKept sequenceKept => ?_⟩
  · intro found lookup
    rcases Lookup.among_eq_found_iff.mp lookup with ⟨member, rfl⟩ | ⟨_, _, single⟩
    · exact ((candidate _).mp member).1
    · refine ((candidate found).mp ?_).1
      rw [single]
      exact List.mem_singleton_self _
  · rw [misled]
    refine or_iff_left ?_
    rintro ⟨_, _, other, different, only⟩
    exact different (backs.eq_own_of_only tableKept sequenceKept only)

end Resolving

/-- A destination that lists the stored names as they are read holds the script. -/
theorem holds_of_names {tables : List Table} {options : Options} {memory : Memory}
    {objects : List ObjectNames} (named : (objectNames tables).1 = objects)
    (listed : memory.tables.map Prod.fst = (objects.map ObjectNames.table).map normalize)
    (drawn : memory.sequences.map Prod.fst =
      (objects.filterMap ObjectNames.sequence).map normalize)
    (once : (memory.tables.map Prod.fst).Nodup) (failures : memory.failures = [])
    (answers : memory.answers = []) : Holds memory (build tables options).1 where
  tables name := by
    rw [listed, isListed_build, ← objectNames_table, named, List.mem_map]
  sequences name := by
    rw [drawn, createdSequences_build, named]
    simp only [List.mem_map, exists_exists_and_eq_and, read?_written, Option.some.injEq]
  once := once
  failures := failures
  answers := answers

/-- A table with one column, which is filled automatically or not. -/
def identified (name : String) (isAutoIncrement : Bool) : Table :=
  { Table.named "public" name with columns :=
      [⟨"id", "bigint", "int8", none, none, none, false, none, isAutoIncrement⟩] }

/-- Two tables that ask for one name, and their sequences for another. -/
def members : List Table :=
  [identified "users" true, identified "Users" true]

theorem lookUp_resolves_members :
    let sections := (build (members.map Table.withSequence) inventoryOptions).1
    let memory : Memory :=
      ⟨[("USERS", ⟨true, some 4⟩), ("USERS_2", ⟨true, some 9⟩)],
        [("SEQ_USERS", ⟨0, 1⟩), ("SEQ_USERS_2", ⟨0, 1⟩)], [], [], []⟩
    let table := (identified "Users" true).withSequence
    let names : ObjectNames := ⟨"USERS_2", some "SEQ_USERS_2"⟩
    Holds memory sections ∧
      Backs (members.map Table.withSequence) table names "USERS_2" "SEQ_USERS_2" "USERS_2" ∧
      ∃ lookup, ((lookUp Memory.operations "SEQ_USERS_2" "USERS_2").result memory).1 = .ok lookup ∧
        Resolves sections table names "USERS_2" "SEQ_USERS_2" "USERS_2" lookup := by
  intro sections memory table names
  have named : (objectNames (members.map Table.withSequence)).1 =
      [⟨"USERS", some "SEQ_USERS"⟩, names] := by
    decide +kernel
  have holds : Holds memory sections :=
    holds_of_names named (by decide +kernel) (by decide +kernel) (by decide) rfl rfl
  have backs : Backs (members.map Table.withSequence) table names "USERS_2" "SEQ_USERS_2"
      "USERS_2" := by
    refine ⟨?_, by decide +kernel, ⟨_, rfl, by decide +kernel⟩, by decide +kernel⟩
    rw [named]
    exact List.mem_cons_of_mem _ List.mem_cons_self
  exact ⟨holds, backs, lookUp_resolves holds backs⟩

/-- Two tables with different names, of which only the longer one draws from a sequence. -/
def events : List Table :=
  [identified "customer_order_line_events" false,
    identified "customer_order_line_events_archive" true]

/-- **The sequence of one table is led to another**, which is created under the very name that is
left of the first one's. -/
theorem lookUp_misleads :
    let sections := (build (events.map Table.withSequence) inventoryOptions).1
    let memory : Memory :=
      ⟨[("CUSTOMER_ORDER_LINE_EVENTS", ⟨true, some 7⟩),
          ("CUSTOMER_ORDER_LINE_EVENTS_ARC", ⟨true, some 40⟩)],
        [("SEQ_CUSTOMER_ORDER_LINE_EVENTS", ⟨0, 1⟩)], [], [], []⟩
    let table := (identified "customer_order_line_events_archive" true).withSequence
    let names : ObjectNames :=
      ⟨"CUSTOMER_ORDER_LINE_EVENTS_ARC", some "SEQ_CUSTOMER_ORDER_LINE_EVENTS"⟩
    (events.map Table.name).Nodup ∧ Holds memory sections ∧
      Backs (events.map Table.withSequence) table names "CUSTOMER_ORDER_LINE_EVENTS_ARC"
        "SEQ_CUSTOMER_ORDER_LINE_EVENTS" "CUSTOMER_ORDER_LINE_EVENTS" ∧
      ∃ lookup, ((lookUp Memory.operations "SEQ_CUSTOMER_ORDER_LINE_EVENTS"
          "CUSTOMER_ORDER_LINE_EVENTS").result memory).1 = .ok lookup ∧
        lookup = .found "CUSTOMER_ORDER_LINE_EVENTS" ∧
        Misleads "CUSTOMER_ORDER_LINE_EVENTS_ARC" lookup := by
  intro sections memory table names
  have distinct : (events.map Table.name).Nodup := by decide
  have named : (objectNames (events.map Table.withSequence)).1 =
      [⟨"CUSTOMER_ORDER_LINE_EVENTS", none⟩, names] := by
    decide +kernel
  have holds : Holds memory sections :=
    holds_of_names named (by decide +kernel) (by decide +kernel) (by decide) rfl rfl
  have backs : Backs (events.map Table.withSequence) table names "CUSTOMER_ORDER_LINE_EVENTS_ARC"
      "SEQ_CUSTOMER_ORDER_LINE_EVENTS" "CUSTOMER_ORDER_LINE_EVENTS" := by
    refine ⟨?_, by decide +kernel, ⟨_, rfl, by decide +kernel⟩, by decide +kernel⟩
    rw [named]
    exact List.mem_cons_of_mem _ List.mem_cons_self
  have found : Lookup.among "SEQ_CUSTOMER_ORDER_LINE_EVENTS" "CUSTOMER_ORDER_LINE_EVENTS"
      ((memory.tables.map Prod.fst).filter fun listed =>
        "CUSTOMER_ORDER_LINE_EVENTS".toList.isPrefixOf listed.toList) =
      .found "CUSTOMER_ORDER_LINE_EVENTS" := by
    decide +kernel
  refine ⟨distinct, holds, backs, _, result_lookUp rfl rfl _ _, found, ?_⟩
  exact ⟨"CUSTOMER_ORDER_LINE_EVENTS", by decide, found⟩

end SchemaFerry.Sequences
