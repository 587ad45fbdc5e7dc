/-
**Names over a part of a list.**

Requests are answered over a whole list, and again over the members that a list of flags chooses.
The answers over the part are those that the chosen members got over the whole exactly if none of
them is an answer that a member left out got (`allocateAll_chosen_iff`): as long as they agree, the
names handed out over the part are among those handed out over the whole, so a name that is new over
the part can only be taken over the whole by a member left out.

* **`written_chosen_iff`** — the same for the names as they are written.
-/

import Mathlib.Data.List.Forall2
import SchemaFerry.Proofs.Identifier.Stored

namespace SchemaFerry.Identifier

/-! ### A part of a list -/

section Chosen

variable {α β : Type}

/-- The members of a list whose flags are set. -/
def chosen : List Bool → List α → List α
  | true :: flags, item :: items => item :: chosen flags items
  | false :: flags, _ :: items => chosen flags items
  | _, _ => []

/-- The members of a list whose flags are not set. -/
def leftOut (flags : List Bool) (items : List α) : List α :=
  chosen (flags.map (!·)) items

@[simp]
theorem chosen_nil (flags : List Bool) : chosen flags ([] : List α) = [] := by
  cases flags with
  | nil => rfl
  | cons flag flags => cases flag <;> rfl

theorem chosen_sublist (flags : List Bool) (items : List α) :
    (chosen flags items).Sublist items := by
  induction items generalizing flags with
  | nil =>
    rw [chosen_nil]
  | cons item items ih =>
    cases flags with
    | nil => exact List.nil_sublist _
    | cons flag flags =>
      cases flag with
      | false => exact (ih flags).cons item
      | true => exact (ih flags).cons_cons item

theorem chosen_map (flags : List Bool) (change : α → β) (items : List α) :
    chosen flags (items.map change) = (chosen flags items).map change := by
  induction items generalizing flags with
  | nil => simp only [List.map_nil, chosen_nil]
  | cons item items ih =>
    cases flags with
    | nil => rfl
    | cons flag flags =>
      cases flag with
      | false => exact ih flags
      | true => exact congrArg _ (ih flags)

/-- Of a list without duplicates nothing is both chosen and left out. -/
theorem disjoint_chosen_leftOut {items : List α} (distinct : items.Nodup) (flags : List Bool) :
    List.Disjoint (chosen flags items) (leftOut flags items) := by
  induction items generalizing flags with
  | nil =>
    rw [chosen_nil]
    exact List.disjoint_nil_left _
  | cons item items ih =>
    obtain ⟨new, rest⟩ := List.nodup_cons.mp distinct
    cases flags with
    | nil => exact List.disjoint_nil_left _
    | cons flag flags =>
      cases flag with
      | false =>
        refine List.disjoint_cons_right.mpr ⟨fun member => ?_, ih rest flags⟩
        exact new ((chosen_sublist flags items).subset member)
      | true =>
        refine List.disjoint_cons_left.mpr ⟨fun member => ?_, ih rest flags⟩
        exact new ((chosen_sublist _ items).subset member)

theorem forall₂_chosen {related : α → β → Prop} {first : List α} {second : List β}
    (all : List.Forall₂ related first second) (flags : List Bool) :
    List.Forall₂ related (chosen flags first) (chosen flags second) := by
  induction all generalizing flags with
  | nil =>
    rw [chosen_nil, chosen_nil]
    exact .nil
  | cons one _ ih =>
    cases flags with
    | nil => exact .nil
    | cons flag flags =>
      cases flag with
      | false => exact ih flags
      | true => exact .cons one (ih flags)

end Chosen

/-! ### Names over a part -/

/-- An allocator that starts with fewer names gives chosen requests the names that another one gives
them among all requests, if these names are not taken at the start or given to one left out. -/
theorem allocateAll_chosen {flags : List Bool} {requests : List String} {small large : Allocator}
    (within : small.taken ⊆ large.taken)
    (apart : List.Disjoint (small.allocateAll (chosen flags requests)).1 large.taken)
    (unlost : List.Disjoint (small.allocateAll (chosen flags requests)).1
      (leftOut flags (large.allocateAll requests).1)) :
    (small.allocateAll (chosen flags requests)).1 =
      chosen flags (large.allocateAll requests).1 := by
  induction requests generalizing flags small large with
  | nil =>
    rw [chosen_nil]
    exact (chosen_nil flags).symm
  | cons request rest ih =>
    cases flags with
    | nil => rfl
    | cons flag flags =>
      rw [Allocator.allocateAll_cons] at unlost ⊢
      cases flag with
      | false =>
        obtain ⟨free, unlost⟩ := List.disjoint_cons_right.mp unlost
        exact ih (List.subset_cons_of_subset _ within) (List.disjoint_cons_right.mpr ⟨free, apart⟩)
          unlost
      | true =>
        rw [chosen, Allocator.allocateAll_cons] at apart unlost ⊢
        obtain ⟨free, apart⟩ := List.disjoint_cons_left.mp apart
        obtain ⟨_, unlost⟩ := List.disjoint_cons_left.mp unlost
        have same := Allocator.next_of_subset within free
        rw [same] at unlost ⊢
        have new := (Allocator.allocateAll_nodup ⟨small.next request :: small.taken⟩
          (chosen flags rest)).2
        refine congrArg _ (ih (List.cons_subset_cons _ within) ?_ unlost)
        exact List.disjoint_cons_right.mpr ⟨(List.disjoint_cons_right.mp new).1, apart⟩

/-- **Chosen requests get the names that they get among all requests exactly if none of these is
given to one left out.** -/
theorem allocateAll_chosen_iff (flags : List Bool) (requests : List String) :
    (Allocator.empty.allocateAll (chosen flags requests)).1 =
        chosen flags (Allocator.empty.allocateAll requests).1 ↔
      List.Disjoint (Allocator.empty.allocateAll (chosen flags requests)).1
        (leftOut flags (Allocator.empty.allocateAll requests).1) := by
  constructor
  · intro same
    rw [same]
    exact disjoint_chosen_leftOut (Allocator.empty.allocateAll_nodup requests).1 flags
  · exact allocateAll_chosen (List.Subset.refl _) (List.disjoint_nil_right _)

/-! ### The names as they are written -/

/-- A name is one of the first candidates for another name. -/
def IsCandidate (most : Nat) (name stored : String) : Prop :=
  ∃ attempt ≤ most, stored = candidate (normalize name) attempt

/-- What is given for a name is one of its candidates, of which as many count as there are names. -/
theorem allocateAll_isCandidate {most : Nat} (allocator : Allocator) (names : List String)
    (within : allocator.taken.length + names.length ≤ most) :
    List.Forall₂ (IsCandidate most) names (allocator.allocateAll (names.map normalize)).1 := by
  induction names generalizing allocator with
  | nil => exact .nil
  | cons name rest ih =>
    rw [List.length_cons] at within
    rw [List.map_cons, Allocator.allocateAll_cons]
    obtain ⟨attempt, reached, given, _⟩ := allocator.next_spec (normalize name)
    refine .cons ⟨attempt, by omega, given⟩ (ih _ ?_)
    rw [List.length_cons]
    omega

/-- Candidates for the same names that are written alike are the same. -/
theorem eq_of_map_written_eq {most : Nat} (few : most + 1 < 10 ^ 29)
    {names first second : List String} (one : List.Forall₂ (IsCandidate most) names first)
    (other : List.Forall₂ (IsCandidate most) names second)
    (same : first.map written = second.map written) : first = second := by
  induction one generalizing second with
  | nil =>
    cases other
    rfl
  | cons here _ ih =>
    cases other with
    | cons there rest =>
      obtain ⟨attempt, reached, rfl⟩ := here
      obtain ⟨another, alsoReached, rfl⟩ := there
      rw [List.map_cons, List.map_cons] at same
      obtain ⟨head, tail⟩ := List.cons.inj same
      rw [candidate_eq_of_written (by omega) (by omega) head, ih rest tail]

/-- **Chosen names are written as they are among all names exactly if none of their stored names is
given to one left out.** -/
theorem written_chosen_iff (flags : List Bool) (names : List String)
    (few : names.length + 1 < 10 ^ 29) :
    (Allocator.empty.allocateAll ((chosen flags names).map normalize)).1.map written =
        (chosen flags (Allocator.empty.allocateAll (names.map normalize)).1).map written ↔
      List.Disjoint (Allocator.empty.allocateAll ((chosen flags names).map normalize)).1
        (leftOut flags (Allocator.empty.allocateAll (names.map normalize)).1) := by
  have part : Allocator.empty.taken.length + (chosen flags names).length ≤ names.length := by
    rw [Allocator.empty, List.length_nil, Nat.zero_add]
    exact (chosen_sublist flags names).length_le
  have whole : Allocator.empty.taken.length + names.length ≤ names.length := by
    rw [Allocator.empty, List.length_nil, Nat.zero_add]
  have left := allocateAll_isCandidate Allocator.empty (chosen flags names) part
  have all := forall₂_chosen (allocateAll_isCandidate Allocator.empty names whole) flags
  rw [← chosen_map, ← allocateAll_chosen_iff, chosen_map]
  exact ⟨eq_of_map_written_eq few left all, congrArg (List.map written)⟩

end SchemaFerry.Identifier
