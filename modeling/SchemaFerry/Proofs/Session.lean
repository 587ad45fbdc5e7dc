/-
**What calls do to the state, whatever happens.**

A call `Moves` states along a relation if the state after it is related to the state before it, be
its result a value or a fault. For several calls this follows from that of each one: after a fault
nothing more is called (`Moves.bind`), except what is always called (`Moves.andAlways`).

* `result_bind_eq_ok_iff` — calls in turn give a value exactly if each of them does.
-/

import SchemaFerry.Session

namespace SchemaFerry.Session

variable {σ α β : Type}

/-- Whatever happens, the state after the call is related to the state before it. -/
def Moves (call : Session σ α) (related : σ → σ → Prop) : Prop :=
  ∀ state, related state (call.result state).2

/-- Any call moves the state along the relation that always holds. -/
theorem moves_true (call : Session σ α) : call.Moves fun _ _ => True :=
  fun _ => trivial

section Moves

variable {first later whole : σ → σ → Prop}

/-- A value moves nothing. -/
theorem moves_pure (still : ∀ state, whole state state) (value : α) :
    (pure value : Session σ α).Moves whole :=
  fun state => still state

/-- Calls in turn in one state: the first one and no more of them, or the first one and then the
others, where its value and the state between are what it gave. -/
theorem related_bind {call : Session σ α} {next : α → Session σ β} {state : σ}
    (one : first state (call.result state).2)
    (others : ∀ value between, call.result state = (.ok value, between) →
      later between ((next value).result between).2)
    (through : ∀ before between after, first before between → later between after →
      whole before after)
    (stopped : ∀ before after, first before after → whole before after) :
    whole state ((call >>= next).result state).2 := by
  rw [result_bind]
  rcases shape : call.result state with ⟨result, between⟩
  rw [shape] at one
  cases result with
  | error fault => exact stopped _ _ one
  | ok value => exact through _ _ _ one (others value between shape)

/-- **Calls in turn**: the first one and no more of them, or the first one and then the others. -/
theorem Moves.bind {call : Session σ α} {next : α → Session σ β} (one : call.Moves first)
    (others : ∀ value, (next value).Moves later)
    (through : ∀ before between after, first before between → later between after →
      whole before after)
    (stopped : ∀ before after, first before after → whole before after) :
    (call >>= next).Moves whole := fun state =>
  related_bind (one state) (fun value between _ => others value between) through stopped

/-- A value that is computed from that of a call moves nothing more. -/
theorem Moves.andThen {call : Session σ α} (one : call.Moves whole) (compute : α → β) :
    (call >>= fun value => pure (compute value)).Moves whole := by
  intro state
  have moved := one state
  rw [result_bind]
  rcases shape : call.result state with ⟨result, between⟩
  rw [shape] at moved
  cases result with
  | error fault => exact moved
  | ok value => exact moved

/-- **A call and what is always called after it.** -/
theorem Moves.andAlways {call : Session σ α} {last : Session σ Unit} (one : call.Moves first)
    (other : last.Moves later)
    (through : ∀ before between after, first before between → later between after →
      whole before after) :
    (call.andAlways last).Moves whole := by
  intro state
  rw [result_andAlways_state]
  exact through _ _ _ (one state) (other _)

/-- A call with another fault moves what it moved. -/
theorem Moves.mapFault {call : Session σ α} (one : call.Moves whole) (change : Fault → Fault) :
    (call.mapFault change).Moves whole := by
  intro state
  have moved := one state
  rw [Session.mapFault, result_ofFunction]
  rcases shape : call.result state with ⟨result, after⟩
  rw [shape] at moved
  cases result <;> exact moved

end Moves

/-! ### Calls that all move the state along one relation -/

section Along

variable {related : σ → σ → Prop}

theorem Moves.along {call : Session σ α} {before after : σ} {given : Except Fault α}
    (moves : call.Moves related) (made : call.result before = (given, after)) :
    related before after := by
  have moved := moves before
  rwa [made] at moved

theorem Moves.next {call : Session σ α} {next : α → Session σ β} (one : call.Moves related)
    (through : ∀ before between after, related before between → related between after →
      related before after)
    (others : ∀ value, (next value).Moves related) : (call >>= next).Moves related :=
  one.bind others through fun _ _ => id

theorem Moves.onFault {call : Session σ α} {remedy : Session σ Unit} (one : call.Moves related)
    (through : ∀ before between after, related before between → related between after →
      related before after)
    (other : remedy.Moves related) : (call.onFault remedy).Moves related := by
  intro state
  have moved := one state
  rw [Session.onFault, result_ofFunction]
  rcases shape : call.result state with ⟨given, between⟩
  rw [shape] at moved
  cases given with
  | ok value => exact moved
  | error fault => exact through _ _ _ moved (other between)

end Along

/-- Work that cannot fail gives a value. -/
theorem result_liftM (work : StateM σ α) (state : σ) :
    (liftM work : Session σ α).result state = (.ok (work.run state).1, (work.run state).2) := rfl

/-- Calls in turn give a value exactly if each of them does. -/
theorem result_bind_eq_ok_iff {call : Session σ α} {next : α → Session σ β} {state after : σ}
    {value : β} :
    (call >>= next).result state = (.ok value, after) ↔
      ∃ given between, call.result state = (.ok given, between) ∧
        (next given).result between = (.ok value, after) := by
  rw [result_bind]
  constructor
  · intro whole
    rcases shape : call.result state with ⟨result, between⟩
    rw [shape] at whole
    cases result with
    | error fault => cases whole
    | ok given => exact ⟨given, between, rfl, whole⟩
  · rintro ⟨given, between, one, other⟩
    rw [one]
    exact other

/-- A call with another fault gives the same values. -/
theorem result_mapFault_eq_ok_iff {call : Session σ α} {change : Fault → Fault} {state after : σ}
    {value : α} :
    (call.mapFault change).result state = (.ok value, after) ↔
      call.result state = (.ok value, after) := by
  rw [mapFault, result_ofFunction]
  rcases call.result state with ⟨fault | given, between⟩
  · exact ⟨nofun, nofun⟩
  · exact Iff.rfl

/-- What is always called after a call changes no result if its own fault does not count. -/
theorem result_andAlways_ignoringFault (call : Session σ α) (last : Session σ Unit) (state : σ) :
    (call.andAlways last.ignoringFault).result state =
      ((call.result state).1, (last.result (call.result state).2).2) := by
  rw [andAlways, result_ofFunction]
  rcases call.result state with ⟨result, between⟩
  cases result <;> rfl

/-- A call and what is always called after it give a value exactly if both do. -/
theorem result_andAlways_eq_ok_iff {call : Session σ α} {last : Session σ Unit} {state after : σ}
    {value : α} :
    (call.andAlways last).result state = (.ok value, after) ↔
      ∃ between, call.result state = (.ok value, between) ∧
        last.result between = (.ok (), after) := by
  rw [andAlways, result_ofFunction]
  rcases call.result state with ⟨result, between⟩
  rcases final : last.result between with ⟨later, _⟩
  constructor
  · intro whole
    simp only [final, Prod.mk.injEq] at whole
    obtain ⟨both, rfl⟩ := whole
    cases result <;> cases later <;> cases both
    exact ⟨between, rfl, final⟩
  · rintro ⟨_, one, other⟩
    cases one
    rw [final] at other
    cases other
    simp only [final]
    rfl

end SchemaFerry.Session
