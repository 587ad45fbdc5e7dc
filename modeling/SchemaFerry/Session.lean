/-
**Calls to a database.**

A call changes the state of what it talks to and returns a value or a fault; after a fault the state
is the one at the time of the fault. `attempt` turns a fault into a value, so that work can go on
after it, and `andAlways` makes a last call whatever happens.

* `result_bind`: nothing is called after a fault;
* `result_andAlways_state`: what is always called at the end is called.
-/

import SchemaFerry.Fault

namespace SchemaFerry

/-- Calls on a state that return a value or a fault. -/
abbrev Session (σ : Type) := ExceptT Fault (StateM σ)

namespace Session

variable {σ α β : Type}

/-- The call of a function on states. -/
def ofFunction (step : σ → Except Fault α × σ) : Session σ α :=
  ExceptT.mk (fun state => step state)

/-- A result that needs no call. -/
def ofExcept (value : Except Fault α) : Session σ α :=
  ofFunction fun state => (value, state)

/-- The result of a call and the state after it. -/
def result (call : Session σ α) (state : σ) : Except Fault α × σ :=
  StateT.run (ExceptT.run call) state

/-- The call as one that cannot fail. -/
def attempt (call : Session σ α) : StateM σ (Except Fault α) :=
  ExceptT.run call

/-- The call with another fault in place of its own. -/
def mapFault (change : Fault → Fault) (call : Session σ α) : Session σ α :=
  ofFunction fun state =>
    match call.result state with
    | (.ok value, after) => (.ok value, after)
    | (.error fault, after) => (.error (change fault), after)

/-- A call whose fault does not count. -/
def ignoringFault (call : Session σ Unit) : Session σ Unit :=
  ofFunction fun state => (.ok (), (call.result state).2)

/-- The value of a call, unless it or a later one failed; of two faults the first counts. -/
def unlessLater (first : Except Fault α) (later : Except Fault Unit) : Except Fault α :=
  match first, later with
  | .ok _, .error fault => .error fault
  | _, _ => first

/-- The call and another one that is made at the end whether or not the first fails. -/
def andAlways (call : Session σ α) (last : Session σ Unit) : Session σ α :=
  ofFunction fun state =>
    let (first, between) := call.result state
    let (later, after) := last.result between
    (unlessLater first later, after)

/-- The call, followed by another one if it fails, whose own fault does not count. -/
def onFault (call : Session σ α) (remedy : Session σ Unit) : Session σ α :=
  ofFunction fun state =>
    match call.result state with
    | (.ok value, after) => (.ok value, after)
    | (.error fault, after) => (.error fault, (remedy.result after).2)

/-! ### Lemmas -/

@[simp]
theorem result_ofFunction (step : σ → Except Fault α × σ) (state : σ) :
    (ofFunction step).result state = step state := rfl

@[simp]
theorem result_pure (value : α) (state : σ) :
    (pure value : Session σ α).result state = (.ok value, state) := rfl

@[simp]
theorem result_throw (fault : Fault) (state : σ) :
    (throw fault : Session σ α).result state = (.error fault, state) := rfl

/-- Nothing is called after a fault. -/
theorem result_bind (call : Session σ α) (next : α → Session σ β) (state : σ) :
    (call >>= next).result state =
      match call.result state with
      | (.ok value, after) => (next value).result after
      | (.error fault, after) => (.error fault, after) := by
  simp only [result, ExceptT.run_bind, StateT.run_bind]
  generalize StateT.run (ExceptT.run call) state = first
  obtain ⟨value, between⟩ := first
  cases value <;> rfl

/-- What is always called at the end is called. -/
theorem result_andAlways_state (call : Session σ α) (last : Session σ Unit) (state : σ) :
    ((call.andAlways last).result state).2 = (last.result (call.result state).2).2 := rfl

/-- What is made of the result of a call. -/
theorem run_attempt_bind_pure (call : Session σ α) (made : Except Fault α → β) (state : σ) :
    (call.attempt >>= fun given => pure (made given) : StateM σ β).run state =
      (made (call.result state).1, (call.result state).2) := rfl

/-- A remedy is called exactly after a fault. -/
theorem result_onFault_error {call : Session σ α} {state after : σ} {fault : Fault}
    (failed : call.result state = (.error fault, after)) (remedy : Session σ Unit) :
    (call.onFault remedy).result state = (.error fault, (remedy.result after).2) := by
  simp [onFault, failed]

end Session

end SchemaFerry
