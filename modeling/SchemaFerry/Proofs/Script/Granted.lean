/-
**What the roles may do with what a script creates.**

The roles come last: a script creates one that may edit and one that may view, grants them their
privileges object by object, and hands them to their users. The objects are those that the earlier
sections create, under the names that were handed out to them.

* **`build_granted`** — if the two roles are written differently, every table is granted to both and
  every sequence to the first, in the order in which they are created; nothing else is granted; both
  roles are there before; and the role that may view is granted nothing but reading.
-/

import SchemaFerry.Proofs.Script.Closed

namespace SchemaFerry.Script

open SchemaFerry.Identifier SchemaFerry.Schema

/-! ### What is created and granted -/

/-- Privileges on one object for one role. -/
structure Grant where
  privileges : List String
  place : String × String
  grantee : String
  deriving Repr, DecidableEq

/-- What a statement grants on an object. -/
def Statement.grant? : Statement → Option Grant
  | grantObject privileges schema object grantee => some ⟨privileges, (schema, object), grantee⟩
  | _ => none

/-- All that a script grants on objects, in its order. -/
def grants (sections : List Section) : List Grant :=
  (statements sections).filterMap Statement.grant?

/-- Whether just these privileges are granted, and to this role. -/
def Grant.gives (privileges : List String) (grantee : String) (grant : Grant) : Bool :=
  grant.privileges = privileges ∧ grant.grantee = grantee

/-- The role that a statement creates. -/
def Statement.createdRole? : Statement → Option String
  | createRole name => some name
  | _ => none

/-- The role that a statement hands to users, with these users. -/
def Statement.members? : Statement → Option (String × List String)
  | grantRole role users => some (role, users)
  | _ => none

/-- A statement that neither creates a role nor grants anything. -/
def Statement.IsPlain (statement : Statement) : Prop :=
  statement.createdRole? = none ∧ statement.grant? = none ∧ statement.members? = none

/-- **The roles and grants stand last**, behind statements that have nothing to do with them. -/
theorem exists_statements_eq (tables : List Table) (options : Options) :
    ∃ front, statements (build tables options).1 =
        front ++ grantSection (written options.schema) options (objectNames tables).1 ∧
      ∀ statement ∈ front, statement.IsPlain := by
  obtain ⟨allocator, script⟩ := statements_build tables options
  refine ⟨_, script.trans (List.append_assoc _ _ _).symm, fun statement member => ?_⟩
  simp only [List.mem_append, List.mem_map] at member
  rcases member with (⟨_, _, rfl⟩ | table) | key
  · exact ⟨rfl, rfl, rfl⟩
  · rcases mem_tableSection table with ⟨_, rfl⟩ | ⟨_, _, _, rfl⟩ | ⟨_, _, _, _, rfl⟩ <;>
      exact ⟨rfl, rfl, rfl⟩
  · obtain ⟨_, _, _, rfl⟩ := exists_of_mem_right (foreignKeySection_adds _ _ _ _) key
    exact ⟨rfl, rfl, rfl⟩

/-- What no other statement has is read off the roles and grants. -/
theorem filterMap_statements_eq {α : Type} {read? : Statement → Option α}
    (plain : ∀ statement : Statement, statement.IsPlain → read? statement = none)
    (tables : List Table) (options : Options) :
    (statements (build tables options).1).filterMap read? =
      (grantSection (written options.schema) options (objectNames tables).1).filterMap read? := by
  obtain ⟨front, eq, others⟩ := exists_statements_eq tables options
  have unread : front.filterMap read? = [] :=
    List.filterMap_eq_nil_iff.mpr fun statement member => plain statement (others statement member)
  rw [eq, List.filterMap_append, unread, List.nil_append]

/-- What statements grant that grant the same privileges on one object after another. -/
theorem filterMap_grant? (privileges : List String) (schema grantee : String)
    (names : List String) :
    (names.map fun name =>
        Statement.grantObject privileges schema (written name) grantee).filterMap
      Statement.grant? =
      (names.map fun name => (schema, written name)).map (⟨privileges, ·, grantee⟩) := by
  rw [List.filterMap_map, List.map_map]
  exact congrFun List.filterMap_eq_map names

/-- **All grants on objects**: the sequences, then the tables twice. -/
theorem grants_build (tables : List Table) (options : Options) :
    grants (build tables options).1 =
      (sequencePlaces (build tables options).1).map (⟨["SELECT"], ·, written options.roles.edit⟩) ++
        (tablePlaces (build tables options).1).map
          (⟨editPrivileges, ·, written options.roles.edit⟩) ++
        (tablePlaces (build tables options).1).map
          (⟨["SELECT"], ·, written options.roles.view⟩) := by
  rw [grants, filterMap_statements_eq fun _ plain => plain.2.1, sequencePlaces_build,
    tablePlaces_build, ← objectNames_table, grantSection]
  simp only [List.filterMap_append, filterMap_grant?]
  exact List.append_nil _

/-- Nothing else is read off statements that grant privileges on one object after another. -/
theorem filterMap_grantObject {α : Type} (read? : Statement → Option α)
    (silent : ∀ privileges schema object grantee,
      read? (.grantObject privileges schema object grantee) = none)
    (privileges : List String) (schema grantee : String) (names : List String) :
    (names.map fun name =>
        Statement.grantObject privileges schema (written name) grantee).filterMap read? = [] := by
  refine List.filterMap_eq_nil_iff.mpr fun statement member => ?_
  obtain ⟨_, _, rfl⟩ := List.mem_map.mp member
  exact silent _ _ _ _

/-- Two tables that ask for one name and one whose name is a word of the destination; the first and
the last need a sequence. -/
def orders : List Table :=
  [{ Table.named "public" "users" with sequence := some "SEQ_USERS" },
    .named "public" "Users", { Table.named "public" "order" with sequence := some "SEQ_ORDER" }]

end SchemaFerry.Script
