/-
**Tables that cannot be described move others.**

The generated script hands out stored names over the tables that could be described, a copy hands
out its targets over the whole listing. So a described table may be created under another name than
the one that its rows are copied to.

* **`generate_agrees_iff`** — the described tables are created where their rows go exactly if none
  of the names they are created under is the target of a table that could not be described;
* `generate_moves_described` — of two tables that ask for one name, the second is created under it
  if the first cannot be described, but its rows go to another table.
-/

import SchemaFerry.Proofs.Copy.Agreement
import SchemaFerry.Proofs.Identifier.Leaving
import SchemaFerry.Proofs.Session
import SchemaFerry.Script.Generate
import SchemaFerry.Source.Server

namespace SchemaFerry.Source.Server

open SchemaFerry.Schema

/-- **What is described**: the columns as the source lists them, with those that draw from a
sequence marked, and a sequence exactly if one is marked. -/
theorem describe_eq_ok {σ : Type} {server : Server σ} {schema name : String} {state after : σ}
    {table : Table} (described : (server.describe schema name).result state = (.ok table, after)) :
    ∃ rows between, (server.columns schema name).result state = (.ok rows, between) ∧
      table.name = name ∧ table.columns = rows.map withDraws ∧
      table.sequence = if (rows.map withDraws).any (·.isAutoIncrement) then
        some (sequenceName name) else none := by
  unfold describe at described
  obtain ⟨rows, between, listed, described⟩ := Session.result_bind_eq_ok_iff.mp described
  dsimp only at described
  by_cases bare : (rows.map withDraws).isEmpty = true
  · rw [if_pos bare] at described
    obtain ⟨_, _, thrown, _⟩ := Session.result_bind_eq_ok_iff.mp described
    cases thrown
  · rw [if_neg bare] at described
    obtain ⟨primaryKey, _, _, described⟩ := Session.result_bind_eq_ok_iff.mp described
    obtain ⟨indexes, _, _, described⟩ := Session.result_bind_eq_ok_iff.mp described
    obtain ⟨foreignKeys, _, _, described⟩ := Session.result_bind_eq_ok_iff.mp described
    cases described
    exact ⟨rows, between, listed, rfl, rfl, rfl⟩

end SchemaFerry.Source.Server

namespace SchemaFerry.Script

open SchemaFerry.Identifier SchemaFerry.Schema

/-! ### Describing in turn -/

section Describing

variable {σ : Type} {catalog : Catalog σ}

/-- A catalog describes a table under the name that it was asked for. -/
def KeepsNames (catalog : Catalog σ) : Prop :=
  ∀ schema name state table after,
    (catalog.describe schema name).result state = (.ok table, after) → table.name = name

/-- What describing tables in turn gives for each of them. -/
def descriptions (catalog : Catalog σ) (schema : String) :
    List String → σ → List (Except Fault Table)
  | [], _ => []
  | name :: rest, state =>
    let (result, after) := (catalog.describe schema name).result state
    result :: descriptions catalog schema rest after

/-- Which tables could be described. -/
def described (catalog : Catalog σ) (schema : String) (names : List String) (state : σ) :
    List Bool :=
  (descriptions catalog schema names state).map Except.isOk

/-- The tables that could be described. -/
def describedTables (catalog : Catalog σ) (schema : String) (names : List String) (state : σ) :
    List Table :=
  (descriptions catalog schema names state).filterMap Except.toOption

/-- What describing tables in turn gives, beside the name of each. -/
def attempts (catalog : Catalog σ) (schema : String) (names : List String) (state : σ) :
    List (String × Except Fault Table) :=
  names.zip (descriptions catalog schema names state)

/-- The warning for a table that could not be described. -/
def failure? : String × Except Fault Table → Option Warning
  | (name, .error fault) => some (.undescribed name fault.message)
  | (_, .ok _) => none

/-- **The tables that are described in turn are those that could be described**, and there is a
warning for each of the others. -/
theorem run_describeEach (catalog : Catalog σ) (schema : String) (names : List String)
    (state : σ) :
    ((catalog.describeEach schema names).run state).1 =
      (describedTables catalog schema names state,
        (attempts catalog schema names state).filterMap failure?) := by
  induction names generalizing state with
  | nil => rfl
  | cons name rest ih =>
    unfold Catalog.describeEach describedTables attempts descriptions
    have attempted : (catalog.describe schema name).attempt.run state =
      (catalog.describe schema name).result state := rfl
    rw [StateT.run_bind, attempted]
    rcases (catalog.describe schema name).result state with ⟨fault | table, after⟩
    · exact congrArg (fun both => (both.1, .undescribed name fault.message :: both.2)) (ih after)
    · exact congrArg (fun both => (table :: both.1, both.2)) (ih after)

/-- The names of the described tables are those that were asked for. -/
theorem describedTables_names (keeps : KeepsNames catalog) (schema : String)
    (names : List String) (state : σ) :
    (describedTables catalog schema names state).map Table.name =
      chosen (described catalog schema names state) names := by
  induction names generalizing state with
  | nil => rfl
  | cons name rest ih =>
    unfold described describedTables descriptions
    rcases shape : (catalog.describe schema name).result state with ⟨fault | table, after⟩
    · exact ih after
    · have same := keeps schema name state table after shape
      show table.name :: _ = name :: _
      rw [same]
      exact congrArg _ (ih after)

/-- **What is generated**: the script of the tables that could be described, with the warnings for
the others before its own. -/
theorem result_generate_eq {request : Request} {names : List String} {state between : σ}
    (listed : (catalog.listTables request.sourceSchema).result state = (.ok names, between)) :
    ∃ after, (generate catalog request).result state =
      (.ok ⟨tableCount (build (describedTables catalog request.sourceSchema names between)
            request.options).1,
          text (build (describedTables catalog request.sourceSchema names between)
            request.options).1,
          (attempts catalog request.sourceSchema names between).filterMap failure? ++
            (build (describedTables catalog request.sourceSchema names between)
              request.options).2⟩, after) := by
  have given := run_describeEach catalog request.sourceSchema names between
  rcases shape : (catalog.describeEach request.sourceSchema names).run between with
    ⟨⟨tables, undescribed⟩, after⟩
  rw [shape, Prod.mk.injEq] at given
  rw [← given.1, ← given.2]
  refine ⟨after, ?_⟩
  unfold generate
  rw [Session.result_bind, listed]
  dsimp only
  rw [Session.result_bind, Session.result_liftM, shape]
  rfl

/-- **A generated script is built from the tables that could be described**; only a failed listing
keeps it from being finished. -/
theorem result_generate {request : Request} {names : List String} {state between : σ}
    (listed : (catalog.listTables request.sourceSchema).result state = (.ok names, between)) :
    ∃ document after, (generate catalog request).result state = (.ok document, after) ∧
      document.text = text (build (describedTables catalog request.sourceSchema names between)
        request.options).1 := by
  obtain ⟨after, finished⟩ := result_generate_eq listed
  exact ⟨_, after, finished, rfl⟩

/-- The catalog of a server describes a table under the name that it was asked for. -/
theorem keepsNames_catalog (server : Source.Server σ) : KeepsNames server.catalog := by
  intro schema name state table after described
  obtain ⟨_, _, _, called, _⟩ := Source.Server.describe_eq_ok described
  exact called

end Describing

/-! ### Where the described tables are created -/

/-- **The tables that could be described are created** under the names that are handed out to them
alone; these are the targets of their rows exactly if none is the target of another table. -/
structure CreatesDescribed (flags : List Bool) (names : List String)
    (selects : List (String × String)) (sections : List Section) : Prop where
  created : createdNames sections = (tableNames (chosen flags names)).1.map written
  agrees_iff : createdNames sections =
      (chosen flags ((Copy.mappings names [] selects).map Copy.TableMapping.target)).map written ↔
    List.Disjoint (tableNames (chosen flags names)).1
      (leftOut flags ((Copy.mappings names [] selects).map Copy.TableMapping.target))

/-- **The described tables are created where their rows go exactly if none of the names that they
are created under is the target of another table**, for every listing that a machine can hold. -/
theorem generate_agrees_iff {σ : Type} {catalog : Catalog σ} (keeps : KeepsNames catalog)
    {request : Request} {names : List String} {state between : σ}
    (listed : (catalog.listTables request.sourceSchema).result state = (.ok names, between))
    (few : names.length < 2 ^ 63) (selects : List (String × String)) :
    let sections := (build (describedTables catalog request.sourceSchema names between)
      request.options).1
    (∃ document after, (generate catalog request).result state = (.ok document, after) ∧
        document.text = text sections) ∧
      CreatesDescribed (described catalog request.sourceSchema names between) names selects
        sections := by
  intro sections
  have created : createdNames sections =
      (tableNames (chosen (described catalog request.sourceSchema names between) names)).1.map
        written := by
    rw [createdNames_build, describedTables_names keeps]
  refine ⟨result_generate listed, created, ?_⟩
  rw [created, Copy.mappings_nil_target]
  exact written_chosen_iff _ names (by omega)

/-- A catalog of two tables that ask for one name, of which the first cannot be described. -/
def namesakeCatalog : Catalog Unit where
  listTables _ := pure ["Users", "users"]
  describe schema name :=
    if name = "Users" then throw (.extraction "Users vanished") else pure (.named schema name)
  rowCount _ _ := pure 0

/-- A request for the script of a schema. -/
def plainRequest : Request :=
  ⟨"public", some "app", none, none, [], []⟩

theorem keepsNames_namesakeCatalog : KeepsNames namesakeCatalog := by
  intro schema name state table after described
  by_cases first : name = "Users"
  · have thrown : namesakeCatalog.describe schema name =
        throw (.extraction "Users vanished") := if_pos first
    rw [thrown] at described
    cases described
  · have given : namesakeCatalog.describe schema name = pure (.named schema name) :=
      if_neg first
    rw [given] at described
    cases described
    rfl

theorem listTables_namesakeCatalog :
    (namesakeCatalog.listTables plainRequest.sourceSchema).result () =
      (.ok ["Users", "users"], ()) := rfl

/-- Two tables that ask for one name, of which the first cannot be described. -/
theorem generate_agrees_iff_namesakes :
    KeepsNames namesakeCatalog ∧
      (namesakeCatalog.listTables plainRequest.sourceSchema).result () =
        (.ok ["Users", "users"], ()) ∧
      ["Users", "users"].length < 2 ^ 63 ∧
      (∃ document after, (generate namesakeCatalog plainRequest).result () = (.ok document, after) ∧
        document.text = text (build
          (describedTables namesakeCatalog plainRequest.sourceSchema ["Users", "users"] ())
          plainRequest.options).1) ∧
      CreatesDescribed (described namesakeCatalog plainRequest.sourceSchema ["Users", "users"] ())
        ["Users", "users"] [] (build
          (describedTables namesakeCatalog plainRequest.sourceSchema ["Users", "users"] ())
          plainRequest.options).1 :=
  ⟨keepsNames_namesakeCatalog, listTables_namesakeCatalog, by decide,
    generate_agrees_iff keepsNames_namesakeCatalog listTables_namesakeCatalog (by decide) []⟩

/-- **The second of two tables that ask for one name is created under it** if the first cannot be
described, but its rows go to another table. -/
theorem generate_moves_described :
    (∃ document after, (generate namesakeCatalog plainRequest).result () = (.ok document, after) ∧
        document.text = text (build
          (describedTables namesakeCatalog plainRequest.sourceSchema ["Users", "users"] ())
          plainRequest.options).1) ∧
      createdNames (build
          (describedTables namesakeCatalog plainRequest.sourceSchema ["Users", "users"] ())
          plainRequest.options).1 = ["USERS"] ∧
      ((Copy.mappings ["Users", "users"] [] []).map fun mapping =>
          (mapping.source, written mapping.target)) =
        [("Users", "USERS"), ("users", "USERS_2")] := by
  refine ⟨result_generate listTables_namesakeCatalog, ?_, by decide +kernel⟩
  rw [createdNames_build, describedTables_names keepsNames_namesakeCatalog]
  decide +kernel

end SchemaFerry.Script
