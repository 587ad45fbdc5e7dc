/-
**What replaces a sequence default.**

A default that draws from a sequence of the source is dropped, and the table gets a sequence of its
own in the destination. Whether a column draws from one is asked twice, of the expression as it
stands in the catalog and of its trimmed form; both are draws or neither is
(`isSequenceCall_trimmed_eq`). The sequence is asked for when the table is described, it is named
when the names are handed out, and it is created and granted under that name (`build_parts`).

* **`describe_replaces`** — for each table that is described, and in every script that it is part
  of: it has one sequence and one grant on it exactly if a column is an identity or draws from a
  sequence, and a default that is dropped is blank or `NULL` or belongs to such a table.
-/

import SchemaFerry.Proofs.Schema.Misread
import SchemaFerry.Proofs.Script.Granted
import SchemaFerry.Proofs.Script.Undescribed
import SchemaFerry.Proofs.Sequences.Backing
import SchemaFerry.Source.Memory

namespace SchemaFerry.Schema

open SchemaFerry.Identifier SchemaFerry.Text

/-! ### Draws -/

/-- How a draw from a sequence starts. -/
def drawLead : List Char := "nextval(".toList

/-- **An expression starts by drawing from a sequence**: behind blanks it goes on with a call of
`nextval`, in letters of either case. -/
def StartsDrawing (expression : String) : Prop :=
  ∃ blanks call rest, expression.toList = blanks ++ (call ++ rest) ∧
    (∀ letter ∈ blanks, isBlank letter = true) ∧ call.map Char.toLower = drawLead

/-- No letter of a call that draws from a sequence is blank. -/
theorem isBlank_of_call {call : List Char} (same : call.map Char.toLower = drawLead) :
    ∀ letter ∈ call, isBlank letter = false := by
  intro letter member
  have small : letter.toLower ∈ drawLead := same ▸ List.mem_map_of_mem member
  have plain : drawLead.all (isBlank · == false) = true := by decide
  rw [← isBlank_toLower]
  exact eq_of_beq (List.all_eq_true.mp plain _ small)

/-- Letters start with a call in either case. -/
theorem drawLead_isFront_iff {letters : List Char} :
    drawLead <+: letters.map Char.toLower ↔
      ∃ call rest, letters = call ++ rest ∧ call.map Char.toLower = drawLead := by
  constructor
  · rintro ⟨rest, whole⟩
    obtain ⟨call, behind, rfl, same, _⟩ := List.map_eq_append_iff.mp whole.symm
    exact ⟨call, behind, rfl, same⟩
  · rintro ⟨call, rest, rfl, same⟩
    rw [List.map_append, same]
    exact List.prefix_append _ _

/-- What starts the small form of an expression starts the expression itself, but for the case of
its letters: no letter outside ASCII is put in small letters as one of the call's. -/
theorem isSequenceCall_iff_isFront {expression : String} : isSequenceCall expression = true ↔
    drawLead <+: (trimStart expression.toList).map Char.toLower := by
  rw [isSequenceCall, List.isPrefixOf_iff_prefix]
  exact prefix_lower_iff (by decide)

/-- **Draws are found**, and nothing else is. -/
theorem isSequenceCall_iff {expression : String} :
    isSequenceCall expression = true ↔ StartsDrawing expression := by
  rw [isSequenceCall_iff_isFront, drawLead_isFront_iff]
  constructor
  · rintro ⟨call, rest, split, same⟩
    refine ⟨expression.toList.takeWhile isBlank, call, rest, ?_, ?_, same⟩
    · rw [← split]
      exact List.takeWhile_append_dropWhile.symm
    · exact fun letter member => List.mem_takeWhile_imp member
  · rintro ⟨blanks, call, rest, split, blank, same⟩
    refine ⟨call, rest, ?_, same⟩
    rw [split, trimStart, List.dropWhile_append_of_pos blank]
    refine trimStart_eq_self fun first more shape => ?_
    cases call with
    | nil => exact absurd same (by decide)
    | cons letter call =>
      rw [← (List.cons.inj shape).1]
      exact isBlank_of_call same letter List.mem_cons_self

/-- **Trimming keeps draws**, and makes no others. -/
theorem isSequenceCall_trimmed_eq (expression : String) :
    isSequenceCall (trimmed expression) = isSequenceCall expression := by
  obtain ⟨blanks, split, blank⟩ := exists_blanks (trimStart expression.toList)
  have inside : isSequenceCall (trimmed expression) = true ↔
      drawLead <+: (trim expression.toList).map Char.toLower := by
    rw [isSequenceCall_trimmed, List.isPrefixOf_iff_prefix]
    exact prefix_lower_iff (by decide)
  rw [Bool.eq_iff_iff, inside, isSequenceCall_iff_isFront, drawLead_isFront_iff,
    drawLead_isFront_iff]
  constructor
  · rintro ⟨call, rest, whole, same⟩
    refine ⟨call, rest ++ blanks, ?_, same⟩
    rw [← List.append_assoc, ← whole]
    exact split
  · rintro ⟨call, rest, whole, same⟩
    have front : call <+: trimEnd (trimStart expression.toList) := by
      refine isFront_of_blanks (split ▸ whole ▸ List.prefix_append _ _) blank ?_
      intro start last shape
      refine isBlank_of_call same last ?_
      rw [shape]
      exact List.mem_append_right _ List.mem_cons_self
    obtain ⟨behind, whole⟩ := front
    exact ⟨call, behind, whole.symm, same⟩

/-- **What is dropped**: a blank expression, a draw from a sequence, and the null value. -/
theorem translate_eq_drop_iff {expression : String} :
    DefaultValue.translate expression = .drop ↔ trim expression.toList = [] ∨
      StartsDrawing expression ∨ IsNull (valueOf (trim expression.toList)) := by
  have filled : IsFilled expression ↔
      trim expression.toList = [] ∨ StartsDrawing expression := by
    rw [IsFilled, isSequenceCall_trimmed_eq, isSequenceCall_iff]
  rw [← or_assoc, ← filled]
  by_cases given : IsFilled expression
  · exact iff_of_true (translate_of_isFilled given) (.inl given)
  · have becomes := translate_becomes given
    rw [or_iff_right given]
    generalize DefaultValue.translate expression = result at becomes ⊢
    cases becomes with
    | dropped null => exact iff_of_true rfl (isNull_iff.mpr null)
    | replaced listed =>
      refine iff_of_false (by rintro ⟨⟩) fun null => ?_
      rw [isNull_iff.mp null] at listed
      simp [keptWords] at listed
    | kept free => exact iff_of_false (by rintro ⟨⟩) fun null => free null.isRuled
    | unsupported free => exact iff_of_false (by rintro ⟨⟩) fun null => free null.isRuled

end SchemaFerry.Schema

namespace SchemaFerry.Script

open SchemaFerry.Identifier SchemaFerry.Schema SchemaFerry.Text

/-! ### One sequence for each table that asks for one -/

/-- **A name is handed out for a request**: the normalized request, or its front with a number. -/
def IsGivenFor (wanted given : String) : Prop :=
  ∃ attempt, given = candidate (normalize wanted) attempt

/-- What is handed out for the sequences, table by table. -/
theorem sequenceNames_areGiven (allocator : Allocator) (wanted : List (Option String)) :
    List.Forall₂ (Option.Rel IsGivenFor) wanted (sequenceNames allocator wanted).1 := by
  induction wanted generalizing allocator with
  | nil => exact .nil
  | cons name rest ih =>
    cases name with
    | none => exact .cons .none (ih allocator)
    | some name =>
      obtain ⟨attempt, _, given, _⟩ := allocator.next_spec (normalize name)
      exact .cons (.some ⟨attempt, given⟩) (ih _)

/-- A name is handed out for a request. -/
theorem exists_isGivenFor {wanted : String} {given : Option String}
    (one : Option.Rel IsGivenFor (some wanted) given) :
    ∃ stored, given = some stored ∧ IsGivenFor wanted stored := by
  cases one with
  | some own => exact ⟨_, rfl, own⟩

/-- There are as many names as requests. -/
theorem length_filterMap_of_areGiven {wanted given : List (Option String)}
    (each : List.Forall₂ (Option.Rel IsGivenFor) wanted given) :
    (given.filterMap id).length = wanted.countP Option.isSome := by
  induction each with
  | nil => rfl
  | cons one _ ih =>
    cases one with
    | none => exact ih
    | some => rw [List.countP_cons_of_pos rfl, ← ih]; rfl

/-- A list that is related to one of three parts is one of three parts. -/
theorem forall₂_append_cons {α β : Type} {related : α → β → Prop} {front back : List α} {own : α}
    {all : List β} (each : List.Forall₂ related (front ++ own :: back) all) :
    ∃ before other behind, all = before ++ other :: behind ∧
      List.Forall₂ related front before ∧ related own other ∧ List.Forall₂ related back behind := by
  induction front generalizing all with
  | nil =>
    cases each with
    | cons one others => exact ⟨[], _, _, rfl, .nil, one, others⟩
  | cons first front ih =>
    cases each with
    | cons one others =>
      obtain ⟨before, other, behind, rfl, early, same, late⟩ := ih others
      exact ⟨_ :: before, other, behind, rfl, .cons one early, same, late⟩

/-- The sequences and the grants on them in a script, those of one table apart from those of the
tables before and behind it.

* `created`, `granted` — each sequence is created once and granted once, in the same order and under
  the same name; all other grants are those on the tables;
* `early`, `late` — there is one for each table before and behind that has one. -/
structure SequenceParts (front back : List Table) (options : Options) (sections : List Section)
    (before own behind : List (String × String)) : Prop where
  created : sequencePlaces sections = before ++ (own ++ behind)
  granted : grants sections =
    (before ++ (own ++ behind)).map (⟨["SELECT"], ·, written options.roles.edit⟩) ++
      (tablePlaces sections).map (⟨editPrivileges, ·, written options.roles.edit⟩) ++
      (tablePlaces sections).map (⟨["SELECT"], ·, written options.roles.view⟩)
  early : before.length = front.countP (·.sequence.isSome)
  late : behind.length = back.countP (·.sequence.isSome)

/-- **A table with a sequence has one in the script, created and granted once**; a table without
one has none. -/
theorem build_parts (front back : List Table) (table : Table) (options : Options) :
    ∃ before given behind,
      SequenceParts front back options (build (front ++ table :: back) options).1 before
        (given.toList.map fun name => (written options.schema, written name)) behind ∧
      Option.Rel IsGivenFor table.sequence given := by
  have each := sequenceNames_areGiven (tableNames ((front ++ table :: back).map Table.name)).2
    ((front ++ table :: back).map Table.sequence)
  rw [← objectNames_sequence, List.map_append, List.map_cons] at each
  obtain ⟨before, given, behind, split, early, own, late⟩ := forall₂_append_cons each
  have places := sequencePlaces_build (front ++ table :: back) options
  have names : (objectNames (front ++ table :: back)).1.filterMap ObjectNames.sequence =
      before.filterMap id ++ (given.toList ++ behind.filterMap id) := by
    rw [← Function.id_comp ObjectNames.sequence, ← List.filterMap_map, split,
      List.filterMap_append]
    cases given <;> rfl
  rw [names, List.map_append, List.map_append] at places
  have granted := grants_build (front ++ table :: back) options
  rw [places] at granted
  refine ⟨_, given, _, ⟨places, granted, ?_, ?_⟩, own⟩
  · rw [List.length_map, length_filterMap_of_areGiven early, List.countP_map]
    rfl
  · rw [List.length_map, length_filterMap_of_areGiven late, List.countP_map]
    rfl

/-! ### Conventional names -/

/-- A sequence is asked for under the conventional name. -/
def IsConventional (table : Table) : Prop :=
  ∀ wanted, table.sequence = some wanted → wanted = sequenceName table.name

/-- The names of the sequences, handed out behind those of the tables. -/
theorem sequences_eq (tables : List Table) :
    (objectNames tables).1.filterMap ObjectNames.sequence =
      ((tableNames (tables.map Table.name)).2.allocateAll
        ((tables.filterMap Table.sequence).map normalize)).1 := by
  have given := (sequenceNames_eq (tableNames (tables.map Table.name)).2
    (tables.map Table.sequence)).1
  rwa [← objectNames_sequence, List.filterMap_map, List.filterMap_map, Function.id_comp,
    Function.id_comp] at given

/-- **A conventional name is not cut behind a blank**: what is handed out for it does not end with
one. -/
theorem trimEnd_of_mem_sequences {tables : List Table}
    (conventional : ∀ table ∈ tables, IsConventional table) :
    ∀ name ∈ (objectNames tables).1.filterMap ObjectNames.sequence,
      trimEnd name.toList = name.toList := by
  rw [sequences_eq]
  refine allocateAll_trimEnd (fun request asked => ?_) (fun request asked => ?_)
  · obtain ⟨wanted, _, rfl⟩ := List.mem_map.mp asked
    exact (isStored_normalize wanted).toIsFolded
  · obtain ⟨wanted, needed, rfl⟩ := List.mem_map.mp asked
    obtain ⟨table, member, needs⟩ := List.mem_filterMap.mp needed
    have stored := Sequences.isStored_sequenceName table.name
    rw [conventional table member wanted needs, List.take_of_length_le (normalize_length _),
      stored.normalize_toList, trimEnd_eq_self fun _ _ => trimEnd_last]

/-- **Sequences that are asked for under conventional names are created once each**, for as many
tables as a machine can hold. -/
theorem sequencePlaces_nodup {tables : List Table}
    (conventional : ∀ table ∈ tables, IsConventional table)
    (few : (requests tables).length < 2 ^ 63) (options : Options) :
    (sequencePlaces (build tables options).1).Nodup := by
  have stored : ∀ name ∈ (objectNames tables).1.filterMap ObjectNames.sequence, IsStored name := by
    intro name member
    refine allocateAll_isStored (fun _ => isFolded_of_mem_requests) ?_ name
      (storedNames_sections tables ▸ List.mem_append_right _ (List.mem_append_left _ member))
    rw [Allocator.empty, List.length_nil]
    omega
  have kept := trimEnd_of_mem_sequences conventional
  have distinct : ((objectNames tables).1.filterMap ObjectNames.sequence).Nodup := by
    rw [sequences_eq]
    exact (Allocator.allocateAll_nodup _ _).1
  rw [sequencePlaces_build, List.nodup_map_iff_inj_on distinct]
  intro first one second other same
  have letters := ((stored first one).written_eq_iff (stored second other)).mp
    (Prod.mk.inj same).2
  rw [kept first one, kept second other] at letters
  exact String.toList_injective letters

end SchemaFerry.Script

namespace SchemaFerry.Sequences

open SchemaFerry.Identifier SchemaFerry.Schema SchemaFerry.Script SchemaFerry.Source
open SchemaFerry.Text

/-- **A column as the source lists it is filled by a sequence**: it is an identity, or its default
draws from one. -/
def IsFilledIn (row : Column) : Prop :=
  row.isAutoIncrement = true ∨
    ∃ expression, row.default = some expression ∧ StartsDrawing expression

/-- Some column is filled by a sequence. -/
def NeedsSequence (rows : List Column) : Prop :=
  ∃ row ∈ rows, IsFilledIn row

theorem isAutoIncrement_withDraws {row : Column} :
    (Server.withDraws row).isAutoIncrement = true ↔ IsFilledIn row := by
  have draws : row.hasSequenceDefault = true ↔
      ∃ expression, row.default = some expression ∧ StartsDrawing expression := by
    rw [Column.hasSequenceDefault, Option.any_eq_true]
    exact exists_congr fun expression => and_congr_right fun _ => isSequenceCall_iff
  rw [Server.withDraws, Bool.or_eq_true, draws, IsFilledIn]

theorem any_isAutoIncrement {rows : List Column} :
    (rows.map Server.withDraws).any (·.isAutoIncrement) = true ↔ NeedsSequence rows := by
  rw [List.any_map, List.any_eq_true]
  exact exists_congr fun row => and_congr_right fun _ => isAutoIncrement_withDraws

/-- The sequence of a table that is described is asked for under the conventional name. -/
theorem isConventional_of_described {σ : Type} {server : Server σ} {schema name : String}
    {state after : σ} {table : Table}
    (described : (server.describe schema name).result state = (.ok table, after)) :
    IsConventional table := by
  obtain ⟨_, _, _, called, _, sequence⟩ := Server.describe_eq_ok described
  intro wanted needs
  rw [sequence] at needs
  split at needs
  · rw [called]
    exact (Option.some.inj needs).symm
  · cases needs

/-- **A sequence default is replaced** in a script that a table with these columns is part of.

* `columns` — the columns are those that the source lists, which differ at most in their mark;
* `sequence` — the table has one sequence, created and granted once, if a column is filled by one,
  and none otherwise; its name is the conventional one, or the front of that with a number;
* `once` — no other sequence is created under its name, if those of the other tables are asked for
  under conventional names, as they are for all tables that are described;
* `draws` — a default that draws from a sequence is dropped, and the table has a sequence;
* `dropped` — no other default is dropped but blank ones and `NULL`. -/
structure Replaces (rows : List Column) (front back : List Table) (table : Table)
    (options : Options) (sections : List Section) : Prop where
  columns : table.columns = rows.map Server.withDraws
  sequence : ∃ before own behind, SequenceParts front back options sections before own behind ∧
    (NeedsSequence rows → ∃ stored, IsGivenFor (sequenceName table.name) stored ∧
      own = [(written options.schema, written stored)]) ∧
    (¬NeedsSequence rows → own = [])
  once : (∀ other ∈ front ++ back, IsConventional other) →
    (requests (front ++ table :: back)).length < 2 ^ 63 → (sequencePlaces sections).Nodup
  draws : ∀ column ∈ table.columns, ∀ expression, column.default = some expression →
    StartsDrawing expression → DefaultValue.translate expression = .drop ∧ NeedsSequence rows
  dropped : ∀ column ∈ table.columns, ∀ expression, column.default = some expression →
    DefaultValue.translate expression = .drop → trim expression.toList = [] ∨
      IsNull (valueOf (trim expression.toList)) ∨
      StartsDrawing expression ∧ NeedsSequence rows

/-- **Sequence defaults are replaced** for every table that any source describes, whatever rows its
catalog gives, and in every script that the table is part of. -/
theorem describe_replaces {σ : Type} {server : Server σ} {schema name : String} {state after : σ}
    {table : Table} (described : (server.describe schema name).result state = (.ok table, after))
    (front back : List Table) (options : Options) :
    ∃ rows between, (server.columns schema name).result state = (.ok rows, between) ∧
      Replaces rows front back table options (build (front ++ table :: back) options).1 := by
  obtain ⟨rows, between, listed, called, columns, sequence⟩ := Server.describe_eq_ok described
  have draws : ∀ column ∈ table.columns, ∀ expression, column.default = some expression →
      StartsDrawing expression → NeedsSequence rows := by
    intro column member expression given draw
    rw [columns] at member
    obtain ⟨row, own, rfl⟩ := List.mem_map.mp member
    exact ⟨row, own, .inr ⟨expression, given, draw⟩⟩
  refine ⟨rows, between, listed, columns, ?_, ?_, ?_, ?_⟩
  · obtain ⟨before, given, behind, parts, own⟩ := build_parts front back table options
    refine ⟨before, _, behind, parts, fun needs => ?_, fun free => ?_⟩
    · rw [sequence, if_pos (any_isAutoIncrement.mpr needs)] at own
      obtain ⟨stored, rfl, one⟩ := exists_isGivenFor own
      exact ⟨stored, called ▸ one, rfl⟩
    · rw [sequence, if_neg (mt any_isAutoIncrement.mp free)] at own
      cases own
      rfl
  · intro conventional few
    refine sequencePlaces_nodup (fun other member => ?_) few options
    rcases List.mem_append.mp member with early | own
    · exact conventional other (List.mem_append_left _ early)
    · rcases List.mem_cons.mp own with rfl | late
      · exact isConventional_of_described described
      · exact conventional other (List.mem_append_right _ late)
  · intro column member expression given draw
    exact ⟨translate_eq_drop_iff.mpr (.inr (.inl draw)), draws column member expression given draw⟩
  · intro column member expression given gone
    rcases translate_eq_drop_iff.mp gone with blank | draw | null
    · exact .inl blank
    · exact .inr (.inr ⟨draw, draws column member expression given draw⟩)
    · exact .inr (.inl null)

/-- A source with a table whose key draws from a sequence. -/
def accounts : Source.Memory :=
  ⟨["accounts"], [⟨"accounts", [
      ⟨"id", "bigint", "int8", none, none, none, false,
        some " NEXTVAL('accounts_id_seq'::regclass)", false⟩,
      ⟨"note", "text", "text", none, none, none, true, some "NULL::text", false⟩],
    ["id"], [], [], 0, "\"public\".\"accounts\"", none, [], []⟩], true, [], [], [], []⟩

theorem describe_replaces_accounts :
    ∃ table after, (Source.Memory.server.describe "public" "accounts").result accounts =
        (.ok table, after) ∧
      table.sequence = some "SEQ_ACCOUNTS" ∧
      ∃ rows between, (Source.Memory.server.columns "public" "accounts").result accounts =
          (.ok rows, between) ∧
        Replaces rows orders members table inventoryOptions
          (build (orders ++ table :: members) inventoryOptions).1 := by
  have described : (Source.Memory.server.describe "public" "accounts").result accounts =
      (.ok _, _) := rfl
  exact ⟨_, _, described, by decide +kernel,
    describe_replaces described orders members inventoryOptions⟩

end SchemaFerry.Sequences
