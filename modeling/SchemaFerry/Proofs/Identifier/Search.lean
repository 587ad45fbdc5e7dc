/-
**How the search for a free name ends.**

The search for a free numbered name has no limit of its own: it looks at one number after the other
until a name is free (`Finds`). Numbered names with different numbers differ, so it ends after at
most one look more than there are names taken, and an allocator answers as such a search does
(`Allocator.isAnswer_next`). As long as fewer than `2 ^ 63` names are asked for, the numbers fit into
a machine word and their digits leave room in a name.

* `finds_iff` — what a search finds is the first free name, whatever number it starts from;
* `isFitted_numbered` — a number takes from the front of a name what it needs and no more;
* **`allocateAll_handsOut`** — what is handed out for requests in turn: names that are new each time,
  within the length limit, each one the request itself or the first free number at its end.
-/

import SchemaFerry.Proofs.Identifier.Stored

namespace SchemaFerry.Identifier

/-- The name that is wanted for a request: in capitals and cut. -/
def requested (request : String) : String :=
  truncate maxLength (Text.uppercased request)

/-! ### A search without a limit -/

/-- **A search without a limit**: the numbered names are looked at in order from a number on. It
ends, after so many looks, with the first name that is free. -/
inductive Finds (taken : List String) (base : String) : Nat → Nat → String → Prop
  | here {number : Nat} (free : numbered base number ∉ taken) :
    Finds taken base number 1 (numbered base number)
  | later {number looks : Nat} {name : String} (occupied : numbered base number ∈ taken)
    (rest : Finds taken base (number + 1) looks name) : Finds taken base number (looks + 1) name

section Search

variable {taken : List String} {base name : String} {number looks : Nat}

/-- What a search finds is free, and what it looked at before is not. -/
theorem Finds.free (finds : Finds taken base number looks name) :
    ∃ steps, looks = steps + 1 ∧ name = numbered base (number + steps) ∧ name ∉ taken ∧
      ∀ earlier < steps, numbered base (number + earlier) ∈ taken := by
  induction finds with
  | here free => exact ⟨0, rfl, rfl, free, fun _ less => absurd less (Nat.not_lt_zero _)⟩
  | later occupied _ ih =>
    obtain ⟨steps, rfl, rfl, free, before⟩ := ih
    refine ⟨steps + 1, rfl, by rw [Nat.add_right_comm, Nat.add_assoc], free, fun earlier less => ?_⟩
    cases earlier with
    | zero => exact occupied
    | succ earlier =>
      have known := before earlier (Nat.lt_of_succ_lt_succ less)
      rwa [Nat.add_right_comm, Nat.add_assoc] at known

/-- A search ends at a free name if all before it are taken. -/
theorem finds_of_free {steps : Nat} (free : numbered base (number + steps) ∉ taken)
    (before : ∀ earlier < steps, numbered base (number + earlier) ∈ taken) :
    Finds taken base number (steps + 1) (numbered base (number + steps)) := by
  induction steps generalizing number with
  | zero => exact .here free
  | succ steps ih =>
    have shift : ∀ count, number + 1 + count = number + (count + 1) := fun count => by omega
    rw [← shift] at free ⊢
    refine .later (before 0 (Nat.succ_pos steps)) (ih free fun earlier less => ?_)
    rw [shift]
    exact before (earlier + 1) (Nat.succ_lt_succ less)

/-- **A search ends exactly at the first free name**, and with nothing else. -/
theorem finds_iff {found : Nat} (within : number ≤ found) (free : numbered base found ∉ taken)
    (before : ∀ earlier, number ≤ earlier → earlier < found → numbered base earlier ∈ taken) :
    Finds taken base number looks name ↔
      looks + number = found + 1 ∧ name = numbered base found := by
  obtain ⟨steps, rfl⟩ := Nat.exists_eq_add_of_le within
  constructor
  · intro finds
    -- Of two names that are free with all before them taken, neither stands before the other.
    obtain ⟨other, rfl, rfl, alsoFree, alsoBefore⟩ := finds.free
    have same : other = steps := by
      rcases Nat.lt_trichotomy other steps with less | same | greater
      · exact absurd (before (number + other) (by omega) (by omega)) alsoFree
      · exact same
      · exact absurd (alsoBefore steps greater) free
    rw [same]
    exact ⟨by omega, rfl⟩
  · rintro ⟨count, rfl⟩
    obtain rfl : looks = steps + 1 := by omega
    exact finds_of_free free fun earlier less => before _ (by omega) (by omega)

end Search

/-! ### Fronts that make room -/

/-- **A name with an ending that fits**: the ending has room in a name, and as much of the front is
kept as there is room for. -/
structure IsFitted (base ending name : String) : Prop where
  room : ending.toList.length ≤ maxLength
  shape : ∃ front, front <+: base.toList ∧ name.toList = front ++ ending.toList
  length : name.toList.length = min maxLength (base.toList.length + ending.toList.length)

/-- **A number takes from the front of a name what it needs and no more.** -/
theorem isFitted_numbered (base : String) {number : Nat} (small : number < 10 ^ 29) :
    IsFitted base ("_" ++ toString number) (numbered base number) := by
  have letters : ("_" ++ toString number).toList = '_' :: Nat.toDigits 10 number := by
    have digits : (toString number).toList = Nat.toDigits 10 number := Nat.toList_repr
    rw [String.toList_append, digits]
    rfl
  refine ⟨?_, ⟨frontFor base number, List.take_prefix _ _, ?_⟩, ?_⟩
  · rw [letters, List.length_cons]
    exact digits_length_lt small
  · rw [letters, numbered_toList]
  · rw [letters, List.length_cons, numbered_length base small]

/-! ### One request -/

/-- **The first number that makes a new name**, from 2 on.

* `new`, `first` — the name with this number was not handed out, and those with smaller ones were;
* `ends`, `soon` — a search ends with it and with nothing else, after one look more at most than
  names were handed out;
* `within`, `fitted` — all numbers on the way fit into a machine word, and the front of the name is
  cut to make room for them. -/
structure IsFirstNumber (earlier : List String) (base : String) (number : Nat) : Prop where
  least : 2 ≤ number
  new : numbered base number ∉ earlier
  first : ∀ smaller, 2 ≤ smaller → smaller < number → numbered base smaller ∈ earlier
  ends : ∀ looks name, Finds earlier base 2 looks name ↔
    looks + 1 = number ∧ name = numbered base number
  soon : ∀ looks name, Finds earlier base 2 looks name → looks ≤ earlier.length + 1
  within : number < 2 ^ 64
  fitted : ∀ tried ≤ number, IsFitted base ("_" ++ toString tried) (numbered base tried)

/-- **What is answered to a request**, given the names that were handed out before: the request
itself if that is new, and otherwise its front with the first number that makes a new name. -/
inductive IsAnswer (earlier : List String) (request : String) : String → Prop
  | itself (new : requested request ∉ earlier) : IsAnswer earlier request (requested request)
  | withNumber {number : Nat} (known : requested request ∈ earlier)
    (first : IsFirstNumber earlier (requested request) number) :
    IsAnswer earlier request (numbered (requested request) number)

/-- The first free candidate of a request that is taken has the first number that makes a new
name. -/
theorem IsFirstFree.isFirstNumber {taken : List String} {request : String} {attempt : Nat}
    (free : IsFirstFree taken request (attempt + 1)) (reached : attempt ≤ taken.length)
    (few : taken.length < 2 ^ 63) :
    IsFirstNumber taken (requested request) (attempt + 2) := by
  have first : ∀ smaller, 2 ≤ smaller → smaller < attempt + 2 →
      numbered (requested request) smaller ∈ taken := by
    intro smaller least less
    obtain ⟨step, rfl⟩ := Nat.exists_eq_add_of_le' least
    exact free.before (step + 1) (by omega)
  have new : numbered (requested request) (attempt + 2) ∉ taken := free.free
  have ends : ∀ looks name, Finds taken (requested request) 2 looks name ↔
      looks + 1 = attempt + 2 ∧ name = numbered (requested request) (attempt + 2) := by
    intro looks name
    rw [finds_iff (Nat.le_add_left 2 attempt) new first]
    exact and_congr_left fun _ => by omega
  refine ⟨Nat.le_add_left 2 attempt, new, first, ends, fun looks name finds => ?_, by omega, ?_⟩
  · have count := ((ends looks name).mp finds).1
    omega
  · intro tried most
    exact isFitted_numbered _ (by omega)

/-- **An allocator answers a request** with its own name or the first free number. -/
theorem Allocator.isAnswer_next (allocator : Allocator) (request : String)
    (few : allocator.taken.length < 2 ^ 63) :
    IsAnswer allocator.taken request (allocator.next request) := by
  obtain ⟨attempt, reached, given, free⟩ := allocator.next_spec request
  rw [given]
  cases attempt with
  | zero => exact .itself free.free
  | succ attempt =>
    exact .withNumber (free.before 0 (Nat.succ_pos attempt))
      (free.isFirstNumber (Nat.le_of_succ_le_succ reached) few)

/-- An answer is within the length limit. -/
theorem IsAnswer.length_le {earlier : List String} {request name : String}
    (answer : IsAnswer earlier request name) : name.toList.length ≤ maxLength := by
  cases answer with
  | itself _ => exact truncate_length _ _
  | withNumber _ first =>
    rw [(first.fitted _ (Nat.le_refl _)).length]
    exact Nat.min_le_left _ _

/-- An answer does not depend on the order in which names were handed out. -/
theorem IsAnswer.of_perm {earlier other : List String} {request name : String}
    (answer : IsAnswer earlier request name) (same : earlier.Perm other) :
    IsAnswer other request name := by
  cases answer with
  | itself new => exact .itself (mt same.mem_iff.mpr new)
  | @withNumber number known first =>
    have free : numbered (requested request) number ∉ other := mt same.mem_iff.mpr first.new
    have before := fun smaller least less => same.mem_iff.mp (first.first smaller least less)
    have ends : ∀ looks name, Finds other (requested request) 2 looks name ↔
        Finds earlier (requested request) 2 looks name := fun looks name => by
      rw [finds_iff first.least free before, finds_iff first.least first.new first.first]
    refine .withNumber (same.mem_iff.mp known) ⟨first.least, free, before, fun looks name => ?_,
      fun looks name finds => ?_, first.within, first.fitted⟩
    · rw [ends, first.ends]
    · rw [← same.length_eq]
      exact first.soon looks name ((ends looks name).mp finds)

/-! ### Requests in turn -/

/-- **What is handed out for requests in turn**: an answer to each of them, given those before it;
no name twice, and none beyond the length limit. -/
structure HandsOut (requests names : List String) : Prop where
  count : names.length = requests.length
  each : ∀ {index : Nat} {request name : String}, requests[index]? = some request →
    names[index]? = some name → IsAnswer (names.take index) request name
  distinct : names.Nodup
  short : ∀ name ∈ names, name.toList.length ≤ maxLength

/-- Each answer of an allocator is given in view of what was taken at the start and handed out
since. -/
theorem Allocator.isAnswer_allocateAll (allocator : Allocator) {requests : List String}
    (few : allocator.taken.length + requests.length < 2 ^ 63) {index : Nat} {request name : String}
    (asked : requests[index]? = some request)
    (given : (allocator.allocateAll requests).1[index]? = some name) :
    IsAnswer (((allocator.allocateAll requests).1.take index).reverse ++ allocator.taken)
      request name := by
  -- Each name goes to the front of what is taken, so the list is in reverse to what is handed out.
  induction requests generalizing allocator index with
  | nil => cases asked
  | cons first rest ih =>
    rw [List.length_cons] at few
    rw [allocateAll_cons] at given ⊢
    cases index with
    | zero =>
      cases asked
      cases given
      exact allocator.isAnswer_next request (by omega)
    | succ index =>
      rw [List.take_succ_cons, List.reverse_cons, List.append_assoc]
      exact ih _ (by rw [List.length_cons]; omega) asked given

/-- **Names are handed out in finitely many steps**, for all requests in turn, as long as there are
fewer than `2 ^ 63` of them: each is answered by itself or by the first number that makes a new
name, no name is given twice, and none is too long. -/
theorem allocateAll_handsOut (requests : List String) (few : requests.length < 2 ^ 63) :
    HandsOut requests (Allocator.empty.allocateAll requests).1 := by
  have count := Allocator.empty.allocateAll_length requests
  have each : ∀ {index : Nat} {request name : String}, requests[index]? = some request →
      (Allocator.empty.allocateAll requests).1[index]? = some name →
      IsAnswer ((Allocator.empty.allocateAll requests).1.take index) request name := by
    intro index request name asked given
    have few : Allocator.empty.taken.length + requests.length < 2 ^ 63 := by
      simpa [Allocator.empty] using few
    have answer := Allocator.empty.isAnswer_allocateAll few asked given
    rw [show Allocator.empty.taken = [] from rfl, List.append_nil] at answer
    exact answer.of_perm (List.reverse_perm _)
  refine ⟨count, each, (Allocator.empty.allocateAll_nodup requests).1, fun name member => ?_⟩
  obtain ⟨index, given⟩ := List.mem_iff_getElem?.mp member
  have within : index < requests.length := count ▸ (List.getElem?_eq_some_iff.mp given).1
  exact (each (List.getElem?_eq_getElem within) given).length_le

/-- Requests of which two are alike in capitals, and one asks for a numbered name. -/
theorem allocateAll_handsOut_numbered :
    ["user", "USER_2", "User", "user"].length < 2 ^ 63 ∧
      HandsOut ["user", "USER_2", "User", "user"] ["USER", "USER_2", "USER_3", "USER_4"] := by
  have few : ["user", "USER_2", "User", "user"].length < 2 ^ 63 := by decide
  have handsOut := allocateAll_handsOut ["user", "USER_2", "User", "user"] few
  have names : (Allocator.empty.allocateAll ["user", "USER_2", "User", "user"]).1 =
      ["USER", "USER_2", "USER_3", "USER_4"] := by
    decide +kernel
  exact ⟨few, names ▸ handsOut⟩

end SchemaFerry.Identifier
