/-
**The work of a run, one thing after the other.**

Between taking the lock and giving it back a run finds its tables, disables the foreign keys, lets
its tables take their turns, catches the sequences up and enables the foreign keys. Other runs, and
an observer of the phase, come in between any two of these, and between any two turns.

* `step_cases`: what a step of the work does, which is the next thing that a run does.
-/

import SchemaFerry.Run.Migration

namespace SchemaFerry.Run

open SchemaFerry.Copy SchemaFerry.Report

variable {σ δ : Type}

/-- Where the work of a run stands: what it does next, with what it has come to, or how it ended. -/
inductive WorkStage where
  | preparing
  | disabling (tables : List TableMapping) (estimate : Option Int)
  | copying (disabled : List Outcome) (turns : List Fleet.Turn) (fleet : Fleet)
    (estimate : Option Int)
  | catchingUp (disabled : List Outcome) (fleet : Fleet) (estimate : Option Int)
  | enabling (disabled sequences : List Outcome) (fleet : Fleet) (estimate : Option Int)
  | done (result : Except Fault CopyReport)

/-- The turn that is taken next, and those that are planned after it: a planned one, or one that is
not when there is none. -/
def Fleet.next? (fleet : Fleet) : List Fleet.Turn → Option (Fleet.Turn × List Fleet.Turn)
  | turn :: rest => some (turn, rest)
  | [] => fleet.turn?.map fun turn => (turn, [])

namespace WorkStage

/-- How the work ended, if it has. -/
def result? : WorkStage → Option (Except Fault CopyReport)
  | done result => some result
  | _ => none

theorem eq_done_of_result? {stage : WorkStage} {result : Except Fault CopyReport}
    (spent : stage.result? = some result) : stage = done result := by
  cases stage with
  | done other => exact congrArg done (Option.some.inj spent)
  | preparing | disabling | copying | catchingUp | enabling => cases spent

/-- Where the work stands after its preparation. -/
def ofPrepared : Except Fault (List TableMapping × Option Int) → WorkStage
  | .ok (tables, estimate) => disabling tables estimate
  | .error fault => done (.error fault)

/-- Does what is next; the tables take turns until there are none. -/
def step (servers : Servers σ δ) (job : Job) (planned : List Fleet.Turn) :
    WorkStage → StateM (World σ δ) WorkStage
  | preparing => do
    return ofPrepared (← (prepare servers job).attempt)
  | disabling tables estimate => do
    let disabled ← disableKeys servers job
    return copying disabled planned (.ofMappings job.plan tables) estimate
  | copying disabled turns fleet estimate =>
    match fleet.next? turns with
    | some (turn, rest) => do
      return copying disabled rest (← fleet.take servers job.plan turn) estimate
    | none => do
      World.record (.enter .finalizing)
      return catchingUp disabled fleet estimate
  | catchingUp disabled fleet estimate => do
    return enabling disabled (← catchUpSequences servers job) fleet estimate
  | enabling disabled sequences fleet estimate => do
    let enabled ← enableKeys servers job
    return done (.ok (fleet.report job estimate disabled sequences enabled))
  | done result => return done result

/-- **The steps of the work**, from one world to another. -/
inductive IsStep (servers : Servers σ δ) (job : Job) (planned : List Fleet.Turn)
    (world : World σ δ) : WorkStage → WorkStage → World σ δ → Prop
  | stop {fault : Fault} {after : World σ δ}
    (failed : (prepare servers job).result world = (.error fault, after)) :
    IsStep servers job planned world preparing (done (.error fault)) after
  | prepare {tables : List TableMapping} {estimate : Option Int} {after : World σ δ}
    (found : (prepare servers job).result world = (.ok (tables, estimate), after)) :
    IsStep servers job planned world preparing (disabling tables estimate) after
  | disable {tables : List TableMapping} {estimate : Option Int} {disabled : List Outcome}
    {after : World σ δ} (made : (disableKeys servers job).run world = (disabled, after)) :
    IsStep servers job planned world (disabling tables estimate)
      (copying disabled planned (.ofMappings job.plan tables) estimate) after
  | turn {disabled : List Outcome} {turn : Fleet.Turn} {turns rest : List Fleet.Turn}
    {fleet later : Fleet} {estimate : Option Int} {after : World σ δ}
    (chosen : fleet.next? turns = some (turn, rest))
    (taken : (fleet.take servers job.plan turn).run world = (later, after)) :
    IsStep servers job planned world (copying disabled turns fleet estimate)
      (copying disabled rest later estimate) after
  | finalize {disabled : List Outcome} {turns : List Fleet.Turn} {fleet : Fleet}
    {estimate : Option Int} (spent : fleet.next? turns = none) :
    IsStep servers job planned world (copying disabled turns fleet estimate)
      (catchingUp disabled fleet estimate) (world.noted (.enter .finalizing))
  | catchUp {disabled sequences : List Outcome} {fleet : Fleet} {estimate : Option Int}
    {after : World σ δ} (made : (catchUpSequences servers job).run world = (sequences, after)) :
    IsStep servers job planned world (catchingUp disabled fleet estimate)
      (enabling disabled sequences fleet estimate) after
  | enable {disabled sequences enabled : List Outcome} {fleet : Fleet} {estimate : Option Int}
    {after : World σ δ} (made : (enableKeys servers job).run world = (enabled, after)) :
    IsStep servers job planned world (enabling disabled sequences fleet estimate)
      (done (.ok (fleet.report job estimate disabled sequences enabled))) after
  | rest (result : Except Fault CopyReport) :
    IsStep servers job planned world (done result) (done result) world

/-- **Every step** is one of these. -/
theorem step_cases (servers : Servers σ δ) (job : Job) (planned : List Fleet.Turn)
    (stage : WorkStage) (world : World σ δ) :
    IsStep servers job planned world stage ((stage.step servers job planned).run world).1
      ((stage.step servers job planned).run world).2 := by
  cases stage with
  | preparing =>
    rw [step, Session.run_attempt_bind_pure]
    rcases found : (prepare servers job).result world with ⟨fault | ⟨tables, estimate⟩, after⟩
    · exact .stop found
    · exact .prepare found
  | disabling tables estimate =>
    rcases made : (disableKeys servers job).run world with ⟨disabled, after⟩
    rw [step, StateT.run_bind, made]
    exact .disable made
  | copying disabled turns fleet estimate =>
    rcases chosen : fleet.next? turns with _ | ⟨turn, rest⟩
    · simp only [step, chosen]
      exact .finalize chosen
    · rcases taken : (fleet.take servers job.plan turn).run world with ⟨later, after⟩
      simp only [step, chosen, StateT.run_bind, taken]
      exact .turn chosen taken
  | catchingUp disabled fleet estimate =>
    rcases made : (catchUpSequences servers job).run world with ⟨sequences, after⟩
    rw [step, StateT.run_bind, made]
    exact .catchUp made
  | enabling disabled sequences fleet estimate =>
    rcases made : (enableKeys servers job).run world with ⟨enabled, after⟩
    rw [step, StateT.run_bind, made]
    exact .enable made
  | done result => exact .rest result

end WorkStage

end SchemaFerry.Run
