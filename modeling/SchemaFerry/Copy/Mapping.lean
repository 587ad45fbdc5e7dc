/-
**Which tables are copied, and where to.**

Names in the destination are handed out over the whole listing in its order, so that they are those
of the generated script; only then are tables left out. A select may replace a table; semicolons at
its end are taken off, and one that is then empty does not count.

* `mappings_source`: the tables are those of the listing that are not excluded, in its order;
* `strippedSelect_last`: a replacing select does not end with a blank.
-/

import SchemaFerry.Identifier.Allocator
import SchemaFerry.Json.Basic
import SchemaFerry.Schema.Catalog
import SchemaFerry.Settings.Basic

namespace SchemaFerry.Copy

open SchemaFerry.Text

/-- A table to copy: its name in the source, that in the destination, and the select that replaces
it. -/
structure TableMapping where
  source : String
  target : String
  select : Option String
  deriving Repr, DecidableEq

/-- The mapping of a table on its own. -/
def TableMapping.ofTable (table : String) : TableMapping :=
  ⟨table, Identifier.normalize table, none⟩

/-- Whether a table is left out. -/
def isExcluded (excluded : List String) (table : String) : Bool :=
  excluded.any fun name => sameLetters name table

/-- The select set for a table: that of its very name, or else the first of a name that differs only
in case. -/
def configuredSelect? (selects : List (String × String)) (table : String) : Option String :=
  match selects.lookup table with
  | some select => some select
  | none => (selects.find? fun entry => sameLetters entry.1 table).map Prod.snd

/-- The letters without the last ones of a class. -/
def withoutLast (drops : Char → Bool) (letters : List Char) : List Char :=
  (letters.reverse.dropWhile drops).reverse

/-- A select without blanks around it and semicolons at its end. -/
def strippedSelect (select : String) : String :=
  String.ofList (trimEnd (withoutLast (· == ';') (trim select.toList)))

/-- The select that replaces a table, if there is one. -/
def customSelect? (selects : List (String × String)) (table : String) : Option String :=
  ((configuredSelect? selects table).map strippedSelect).filter (!·.isEmpty)

/-- The mappings of a listing of tables. -/
def mappings (tables excluded : List String) (selects : List (String × String)) :
    List TableMapping :=
  let targets := (Identifier.Allocator.empty.allocateAll (tables.map Identifier.normalize)).1
  ((tables.zip targets).filter fun entry => !isExcluded excluded entry.1).map fun entry =>
    ⟨entry.1, entry.2, customSelect? selects entry.1⟩

/-- The mappings of the tables in a schema of the source. -/
def discover {σ : Type} (catalog : Schema.Catalog σ) (schema : String) (settings : CopySettings) :
    Session σ (List TableMapping) := do
  return mappings (← catalog.listTables schema) settings.excludedTables settings.customSelects

/-- A mapping as a JSON value. -/
def TableMapping.toJson (mapping : TableMapping) : Json :=
  .object ([("source", .string mapping.source), ("dest", .string mapping.target)] ++
    match mapping.select with
    | some select => [("custom_select", .string select)]
    | none => [])

/-! ### Lemmas -/

/-- The tables are those of the listing that are not excluded, in its order. -/
theorem mappings_source (tables excluded : List String) (selects : List (String × String)) :
    (mappings tables excluded selects).map (·.source) =
      tables.filter fun table => !isExcluded excluded table := by
  have length := Identifier.Allocator.empty.allocateAll_length (tables.map Identifier.normalize)
  simp only [List.length_map] at length
  simp only [mappings, List.map_map]
  have front : (fun mapping : TableMapping => mapping.source) ∘
      (fun entry : String × String =>
        (⟨entry.1, entry.2, customSelect? selects entry.1⟩ : TableMapping)) = Prod.fst := rfl
  have kept : (fun entry : String × String => !isExcluded excluded entry.1) =
      (fun table => !isExcluded excluded table) ∘ Prod.fst := rfl
  rw [front, kept, ← List.filter_map, List.map_fst_zip (by omega)]

/-- A stripped select does not end with a blank. -/
theorem strippedSelect_last {select : String} {front : List Char} {last : Char}
    (shape : (strippedSelect select).toList = front ++ [last]) : isBlank last = false := by
  rw [strippedSelect, String.toList_ofList] at shape
  exact trimEnd_last shape

end SchemaFerry.Copy
