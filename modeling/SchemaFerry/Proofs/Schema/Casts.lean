/-
**Casts at the end of an expression.**

An expression is cut at the first two colons outside text literals. A scan keeps to one truth value:
each quote opens a literal or closes it, so that a quote inside that is written twice closes the
literal and opens it again. Letters are passed over (`IsPassedOver`) if no cast starts in them and
they leave no literal open; this carries over to letters put together, and holds of a text literal
whatever its text is.

* **`isPassedOver_quote`** — a text literal is passed over;
* `exists_cast` — what is cut off starts with two colons;
* `withoutCasts_of_isPassedOver` — what is passed over is kept, with or without a cast behind it.
-/

import SchemaFerry.Proofs.Identifier.Stored
import SchemaFerry.Schema.DefaultValue
import SchemaFerry.Text.Quoted

namespace SchemaFerry.Schema

open SchemaFerry.Identifier SchemaFerry.Text

/-! ### One letter -/

/-- The scan cuts before a letter, or passes it over. -/
theorem beforeCast?_cons (inLiteral : Bool) (letter : Char) (rest : List Char) :
    beforeCast? inLiteral (letter :: rest) =
      if inLiteral = false ∧ letter = ':' ∧ rest.head? = some ':' then some []
      else (beforeCast? (if letter = '\'' then !inLiteral else inLiteral) rest).map
        (letter :: ·) := by
  by_cases colon : letter = ':'
  · subst colon
    cases rest with
    | nil => cases inLiteral <;> rfl
    | cons next rest =>
      by_cases double : next = ':'
      · subst double
        cases inLiteral <;> rfl
      · rw [if_neg, beforeCast?]
        · intro other _ same
          exact double (List.cons.inj same).1
        · rintro ⟨_, _, same⟩
          exact double (Option.some.inj same)
  · rw [if_neg fun cuts => colon cuts.2.1, beforeCast?]
    intro other same
    exact absurd same colon

theorem beforeCast?_cons_of_ne {inLiteral : Bool} {letter : Char} (plain : letter ≠ ':')
    (rest : List Char) : beforeCast? inLiteral (letter :: rest) =
      (beforeCast? (if letter = '\'' then !inLiteral else inLiteral) rest).map (letter :: ·) := by
  rw [beforeCast?_cons, if_neg fun cuts => plain cuts.2.1]

theorem beforeCast?_true_cons (letter : Char) (rest : List Char) :
    beforeCast? true (letter :: rest) =
      (beforeCast? (if letter = '\'' then false else true) rest).map (letter :: ·) := by
  rw [beforeCast?_cons, if_neg fun cuts => Bool.false_ne_true cuts.1.symm]
  rfl

/-- What is cut off starts with two colons. -/
theorem exists_cast {inLiteral : Bool} {letters front : List Char}
    (cut : beforeCast? inLiteral letters = some front) :
    ∃ after, letters = front ++ ':' :: ':' :: after := by
  induction letters generalizing inLiteral front with
  | nil => cases cut
  | cons letter rest ih =>
    rw [beforeCast?_cons] at cut
    split at cut
    · rename_i double
      obtain ⟨_, rfl, next⟩ := double
      obtain rfl := Option.some.inj cut
      obtain ⟨after, rfl⟩ := List.head?_eq_some_iff.mp next
      exact ⟨after, rfl⟩
    · obtain ⟨others, found, rfl⟩ := Option.map_eq_some_iff.mp cut
      obtain ⟨after, rfl⟩ := ih found
      exact ⟨after, rfl⟩

/-! ### Letters that are passed over -/

/-- **A scan passes letters over**: it does not cut in them, whatever comes behind, and goes on
outside literals. -/
def IsPassedOver (letters : List Char) : Prop :=
  ∀ rest, beforeCast? false (letters ++ rest) = (beforeCast? false rest).map (letters ++ ·)

theorem isPassedOver_nil : IsPassedOver [] := fun rest =>
  (Option.map_id' (x := beforeCast? false rest)).symm

theorem IsPassedOver.append {first second : List Char} (one : IsPassedOver first)
    (other : IsPassedOver second) : IsPassedOver (first ++ second) := by
  intro rest
  rw [List.append_assoc, one, other, Option.map_map]
  congr 1
  funext front
  exact (List.append_assoc _ _ _).symm

/-- Letters other than colons and quotes are passed over. -/
theorem isPassedOver_of_plain {letters : List Char}
    (plain : ∀ letter ∈ letters, letter ≠ ':' ∧ letter ≠ '\'') : IsPassedOver letters := by
  induction letters with
  | nil => exact isPassedOver_nil
  | cons letter rest ih =>
    rw [List.forall_mem_cons] at plain
    intro more
    rw [List.cons_append, beforeCast?_cons_of_ne plain.1.1, if_neg plain.1.2, ih plain.2,
      Option.map_map]
    rfl

/-- The text of a literal is passed over up to the quote that closes it. -/
theorem beforeCast?_doubled (body rest : List Char) :
    beforeCast? true (doubled '\'' body ++ '\'' :: rest) =
      (beforeCast? false rest).map ((doubled '\'' body ++ ['\'']) ++ ·) := by
  induction body with
  | nil =>
    rw [doubled, List.nil_append, beforeCast?_true_cons, if_pos rfl]
    rfl
  | cons letter body ih =>
    rw [doubled]
    by_cases quote : letter = '\''
    · -- The first of the two quotes closes the literal, the second one opens it again.
      rw [if_pos quote, List.cons_append, List.cons_append, beforeCast?_true_cons, if_pos rfl,
        beforeCast?_cons_of_ne (by decide), if_pos rfl, Bool.not_false, ih, Option.map_map,
        Option.map_map]
      rfl
    · rw [if_neg quote, List.cons_append, beforeCast?_true_cons, if_neg quote, ih, Option.map_map]
      rfl

/-- **A text literal is passed over**, whatever its text is. -/
theorem isPassedOver_quote (body : List Char) : IsPassedOver (quote '\'' body) := by
  intro rest
  rw [quote, List.cons_append, List.append_assoc, List.singleton_append,
    beforeCast?_cons_of_ne (by decide), if_pos rfl, Bool.not_false, beforeCast?_doubled,
    Option.map_map]
  rfl

section Kept

variable {letters : List Char}

theorem IsPassedOver.beforeCast?_eq_none (passed : IsPassedOver letters) :
    beforeCast? false letters = none := by
  have whole := passed []
  rwa [List.append_nil] at whole

theorem IsPassedOver.beforeCast?_cast (passed : IsPassedOver letters) (after : List Char) :
    beforeCast? false (letters ++ ':' :: ':' :: after) = some letters := by
  rw [passed, beforeCast?_cons, if_pos ⟨rfl, rfl, rfl⟩, Option.map_some, List.append_nil]

/-- **What is passed over is kept**, blanks around it apart, with a cast behind it or without. -/
theorem withoutCasts_of_isPassedOver (passed : IsPassedOver letters)
    (trimmed : trim letters = letters) : withoutCasts letters = letters ∧
      ∀ after, withoutCasts (letters ++ ':' :: ':' :: after) = letters := by
  refine ⟨withoutCasts_of_no_cast passed.beforeCast?_eq_none, fun after => ?_⟩
  rw [withoutCasts, passed.beforeCast?_cast]
  exact trimmed

end Kept

end SchemaFerry.Schema
