/-
**Names that are handed out once.**

For a request an allocator tries candidates in a fixed order: the request itself, capitalised and
cut, then its front with `_2`, `_3`, … at its end. Numbered names with different numbers differ
(`numbered_injective`), so of one more than it has handed out one is free.

* **`Allocator.next_spec`** — the name that is given is the first candidate that is free;
* `Allocator.next_of_subset` — an allocator that has handed out more names gives the same one, if
  that is free;
* **`Allocator.allocateAll_nodup`** — no name is given twice;
* `Allocator.allocateAll_eq_candidate_iff` — a request is granted as it is exactly if it was not
  handed out before.
-/

import Mathlib.Data.List.Nodup
import Mathlib.Data.List.Perm.Subperm
import Mathlib.Data.Nat.Find
import SchemaFerry.Identifier.Allocator

namespace SchemaFerry.Identifier

/-! ### Numbered names -/

/-- The front of a name that leaves room for a number. -/
def frontFor (base : String) (number : Nat) : List Char :=
  base.toList.take (maxLength - ((Nat.toDigits 10 number).length + 1))

theorem numbered_toList (base : String) (number : Nat) :
    (numbered base number).toList = frontFor base number ++ '_' :: Nat.toDigits 10 number := by
  have digits : (toString number).toList = Nat.toDigits 10 number := Nat.toList_repr
  rw [numbered, String.toList_append, truncate, String.toList_ofList, String.toList_append, digits,
    frontFor, List.length_append, Nat.add_comm]
  rfl

/-- What follows the last mark of a word is read off from its end. -/
theorem eq_of_append_mark {first second firstTail secondTail : List Char} {mark : Char}
    (same : first ++ mark :: firstTail = second ++ mark :: secondTail)
    (firstClear : mark ∉ firstTail) (secondClear : mark ∉ secondTail) : firstTail = secondTail := by
  rcases List.append_eq_append_iff.mp same with ⟨middle, _, rest⟩ | ⟨middle, _, rest⟩
  · cases middle with
    | nil => exact (List.cons.inj rest).2
    | cons letter middle =>
      have tail := (List.cons.inj rest).2
      exact absurd (tail ▸ List.mem_append_right middle List.mem_cons_self) firstClear
  · cases middle with
    | nil => exact (List.cons.inj rest).2.symm
    | cons letter middle =>
      have tail := (List.cons.inj rest).2
      exact absurd (tail ▸ List.mem_append_right middle List.mem_cons_self) secondClear

/-- **Names with different numbers differ.** -/
theorem numbered_injective (base : String) : Function.Injective (numbered base) := by
  intro first second same
  have letters := congrArg String.toList same
  rw [numbered_toList, numbered_toList] at letters
  have digits := eq_of_append_mark letters Nat.underscore_not_in_toDigits
    Nat.underscore_not_in_toDigits
  have values := congrArg (fun word => Nat.ofDigitChars 10 word 0) digits
  simpa only [Nat.ofDigitChars_ten_toDigits] using values

/-! ### Candidates -/

/-- The names that are tried for a request, in their order. -/
def candidate (request : String) : Nat → String
  | 0 => truncate maxLength (Text.uppercased request)
  | attempt + 1 => numbered (truncate maxLength (Text.uppercased request)) (attempt + 2)

/-- **The first free candidate**: it is not in a list, and those before it are. -/
structure IsFirstFree (taken : List String) (request : String) (attempt : Nat) : Prop where
  free : candidate request attempt ∉ taken
  before : ∀ earlier < attempt, candidate request earlier ∈ taken

/-- There is only one first free candidate. -/
theorem IsFirstFree.unique {taken : List String} {request : String} {first second : Nat}
    (one : IsFirstFree taken request first) (other : IsFirstFree taken request second) :
    first = second := by
  rcases Nat.lt_trichotomy first second with less | same | greater
  · exact absurd (other.before first less) one.free
  · exact same
  · exact absurd (one.before second greater) other.free

/-- A search that is long enough to meet a free number ends at the first one. -/
theorem firstFree_eq {taken : List String} {base : String} {attempts number found : Nat}
    (within : number ≤ found) (reached : found ≤ number + attempts)
    (free : numbered base found ∉ taken)
    (before : ∀ earlier, number ≤ earlier → earlier < found → numbered base earlier ∈ taken) :
    firstFree taken base attempts number = numbered base found := by
  induction attempts generalizing number with
  | zero =>
    have same : number = found := by omega
    rw [firstFree, same]
  | succ attempts ih =>
    rw [firstFree]
    by_cases same : number = found
    · rw [same, if_neg (by rwa [List.contains_iff_mem])]
    · have occupied := before number (Nat.le_refl number) (by omega)
      rw [if_pos (List.contains_iff_mem.mpr occupied)]
      exact ih (by omega) (by omega) fun earlier least => before earlier (by omega)

/-- **A number is free** among one more than there are names. -/
theorem exists_free (taken : List String) (base : String) (number : Nat) :
    ∃ step ≤ taken.length, numbered base (number + step) ∉ taken := by
  by_contra full
  have distinct : ((List.range (taken.length + 1)).map fun step =>
      numbered base (number + step)).Nodup := by
    refine List.nodup_range.map fun first second same => ?_
    have numbers := numbered_injective base same
    omega
  have within : ((List.range (taken.length + 1)).map fun step =>
      numbered base (number + step)) ⊆ taken := by
    intro name member
    obtain ⟨step, below, rfl⟩ := List.mem_map.mp member
    by_contra free
    exact full ⟨step, Nat.lt_succ_iff.mp (List.mem_range.mp below), free⟩
  have bound := (distinct.subperm within).length_le
  rw [List.length_map, List.length_range] at bound
  omega

/-- **The first free number** is found. -/
theorem firstFree_spec (taken : List String) (base : String) (number : Nat) :
    ∃ step ≤ taken.length,
      firstFree taken base taken.length number = numbered base (number + step) ∧
      numbered base (number + step) ∉ taken ∧
        ∀ earlier < step, numbered base (number + earlier) ∈ taken := by
  have free : ∃ step, numbered base (number + step) ∉ taken := by
    obtain ⟨step, _, found⟩ := exists_free taken base number
    exact ⟨step, found⟩
  have before : ∀ earlier < Nat.find free, numbered base (number + earlier) ∈ taken :=
    fun earlier less => not_not.mp (Nat.find_min free less)
  have reached : Nat.find free ≤ taken.length := by
    obtain ⟨step, reached, found⟩ := exists_free taken base number
    exact Nat.le_trans (Nat.find_min' free found) reached
  refine ⟨Nat.find free, reached, ?_, Nat.find_spec free, before⟩
  refine firstFree_eq (Nat.le_add_right _ _) (by omega) (Nat.find_spec free) ?_
  intro earlier least less
  obtain ⟨step, rfl⟩ := Nat.exists_eq_add_of_le least
  exact before step (by omega)

namespace Allocator

/-- **The name that is given is the first candidate that is free**, and it is met in one attempt
more than there are names taken. -/
theorem next_spec (allocator : Allocator) (request : String) :
    ∃ attempt ≤ allocator.taken.length + 1, allocator.next request = candidate request attempt ∧
      IsFirstFree allocator.taken request attempt := by
  unfold next
  by_cases occupied : truncate maxLength (Text.uppercased request) ∈ allocator.taken
  · obtain ⟨step, reached, found, free, before⟩ := firstFree_spec allocator.taken
      (truncate maxLength (Text.uppercased request)) 2
    have numbers : ∀ step, candidate request (step + 1) =
        numbered (truncate maxLength (Text.uppercased request)) (2 + step) := by
      intro step
      rw [candidate, Nat.add_comm]
    rw [if_pos (List.contains_iff_mem.mpr occupied), found, ← numbers]
    rw [← numbers] at free
    refine ⟨step + 1, Nat.succ_le_succ reached, rfl, free, fun earlier less => ?_⟩
    cases earlier with
    | zero => exact occupied
    | succ earlier =>
      rw [numbers]
      exact before earlier (by omega)
  · rw [if_neg (by rwa [List.contains_iff_mem])]
    exact ⟨0, Nat.zero_le _, rfl, occupied, nofun⟩

/-- A name that is given is new. -/
theorem next_not_mem (allocator : Allocator) (request : String) :
    allocator.next request ∉ allocator.taken := by
  obtain ⟨_, _, same, first⟩ := allocator.next_spec request
  rw [same]
  exact first.free

/-- **An allocator that has handed out more names gives the same one**, if that is free. -/
theorem next_of_subset {small large : Allocator} {request : String}
    (within : small.taken ⊆ large.taken) (free : small.next request ∉ large.taken) :
    large.next request = small.next request := by
  obtain ⟨attempt, _, given, first⟩ := small.next_spec request
  obtain ⟨another, _, alsoGiven, alsoFirst⟩ := large.next_spec request
  rw [given] at free ⊢
  have same := alsoFirst.unique ⟨free, fun earlier less => within (first.before earlier less)⟩
  rw [alsoGiven, same]

/-- **A request is granted as it is exactly if it is free.** -/
theorem next_eq_candidate_iff {allocator : Allocator} {request : String} :
    allocator.next request = candidate request 0 ↔ candidate request 0 ∉ allocator.taken := by
  constructor
  · intro granted
    rw [← granted]
    exact allocator.next_not_mem request
  · exact allocate_fst_of_free

/-! ### Names for several requests -/

theorem allocateAll_cons (allocator : Allocator) (request : String) (rest : List String) :
    allocator.allocateAll (request :: rest) =
      (allocator.next request ::
          ((⟨allocator.next request :: allocator.taken⟩ : Allocator).allocateAll rest).1,
        ((⟨allocator.next request :: allocator.taken⟩ : Allocator).allocateAll rest).2) := rfl

/-- **No name is given twice**, nor one that was taken before. -/
theorem allocateAll_nodup (allocator : Allocator) (requests : List String) :
    (allocator.allocateAll requests).1.Nodup ∧
      List.Disjoint (allocator.allocateAll requests).1 allocator.taken := by
  induction requests generalizing allocator with
  | nil => exact ⟨List.nodup_nil, List.disjoint_nil_left _⟩
  | cons request rest ih =>
    rw [allocateAll_cons]
    obtain ⟨distinct, apart⟩ := ih ⟨allocator.next request :: allocator.taken⟩
    rw [List.disjoint_cons_right] at apart
    refine ⟨List.nodup_cons.mpr ⟨apart.1, distinct⟩, ?_⟩
    exact List.disjoint_cons_left.mpr ⟨allocator.next_not_mem request, apart.2⟩

/-- **A request is granted as it is exactly if it was not handed out before**, at the start or to an
earlier request. -/
theorem allocateAll_eq_candidate_iff {allocator : Allocator} {requests : List String} {index : Nat}
    {request given : String} (asked : requests[index]? = some request)
    (granted : (allocator.allocateAll requests).1[index]? = some given) :
    given = candidate request 0 ↔ candidate request 0 ∉ allocator.taken ∧
      candidate request 0 ∉ (allocator.allocateAll requests).1.take index := by
  induction requests generalizing allocator index with
  | nil => cases asked
  | cons first rest ih =>
    rw [allocateAll_cons] at granted ⊢
    cases index with
    | zero =>
      cases asked
      cases granted
      rw [next_eq_candidate_iff, List.take_zero]
      exact (and_iff_left List.not_mem_nil).symm
    | succ index =>
      rw [ih asked granted, List.take_succ_cons, List.mem_cons, List.mem_cons, not_or, not_or]
      exact ⟨fun ⟨⟨new, free⟩, late⟩ => ⟨free, new, late⟩,
        fun ⟨free, new, late⟩ => ⟨⟨new, free⟩, late⟩⟩

/-- **What was asked for is taken**, by the one that asked for it or by another. -/
theorem candidate_mem_allocateAll {requests : List String} {request : String}
    (asked : request ∈ requests) :
    candidate request 0 ∈ (Allocator.empty.allocateAll requests).1 := by
  obtain ⟨index, found⟩ := List.mem_iff_getElem?.mp asked
  have within : index < (Allocator.empty.allocateAll requests).1.length := by
    rw [allocateAll_length]
    exact (List.getElem?_eq_some_iff.mp found).1
  have granted := List.getElem?_eq_getElem within
  by_contra free
  have own := (allocateAll_eq_candidate_iff found granted).mpr
    ⟨List.not_mem_nil, fun earlier => free (List.mem_of_mem_take earlier)⟩
  exact free (own ▸ List.getElem_mem within)

/-- **Requests that are free and distinct are all granted as they are.** -/
theorem allocateAll_eq_map {allocator : Allocator} {requests : List String}
    (distinct : (requests.map (candidate · 0)).Nodup)
    (free : List.Disjoint (requests.map (candidate · 0)) allocator.taken) :
    (allocator.allocateAll requests).1 = requests.map (candidate · 0) := by
  induction requests generalizing allocator with
  | nil => rfl
  | cons request rest ih =>
    rw [List.map_cons] at distinct free ⊢
    obtain ⟨new, distinct⟩ := List.nodup_cons.mp distinct
    obtain ⟨own, free⟩ := List.disjoint_cons_left.mp free
    have granted := next_eq_candidate_iff.mpr own
    rw [allocateAll_cons, granted]
    exact congrArg _ (ih distinct (List.disjoint_cons_right.mpr ⟨new, free⟩))

end Allocator

end SchemaFerry.Identifier
