/-
**What a move of a run hands on.**

A service is occupied by one run and the lock is held by one run for the same reason: each is a
token, which a run takes only when it is free and which nobody but the run that has it gives back
(`Handing`). So a token is had by exactly the run that it names, whatever the interleaving.

* `IsToken.set`, `IsToken.append` — a token is still where it belongs after a step of one run, and
  after one more run was asked for.
* `LockStep.exists_holder` — who holds the lock is nowhere stored: the source gives it only while it
  is not held (`Server.KeepsLock`), and that is enough to make it a token.
* `IsMove.service_handing`, `IsMove.isOnCourse`, `IsMove.exists_calls`, `IsMove.shows` — what a move
  does to the service, the journal, the lock and the phase that is shown.
-/

import Mathlib.Data.List.Basic
import SchemaFerry.Proofs.Run.Steps

namespace SchemaFerry.Run

open SchemaFerry.Report SchemaFerry.Source

variable {σ δ : Type} {servers : Servers σ δ}

/-! ### Tokens -/

/-- **What a step of a run does to a token**: nothing, or it takes a free one, or it gives back the
one that it has. -/
inductive Handing (run : Nat) : Bool → Bool → Option Nat → Option Nat → Prop
  | kept (has : Bool) (token : Option Nat) : Handing run has has token token
  | taken : Handing run false true none (some run)
  | returned (token : Option Nat) : Handing run true false token none

/-- **A token is had by the run that it names** and by no other. -/
def IsToken (members : List Member) (has : Member → Bool) (token : Option Nat) : Prop :=
  ∀ run, token = some run ↔ ∃ member, members[run]? = some member ∧ has member = true

section Tokens

variable {members : List Member} {has : Member → Bool} {token later : Option Nat} {run : Nat}
  {member next : Member}

/-- A token that names a run still does, or does so again, exactly if the run has it; for the other
runs nothing changes. -/
theorem Handing.iff {before after : Bool} (handing : Handing run before after token later)
    (had : token = some run ↔ before = true) :
    (later = some run ↔ after = true) ∧
      ∀ other, other ≠ run → (later = some other ↔ token = some other) := by
  cases handing with
  | kept => exact ⟨had, fun _ _ => .rfl⟩
  | taken =>
    refine ⟨⟨fun _ => rfl, fun _ => rfl⟩, fun other different => ⟨fun same => ?_, nofun⟩⟩
    exact absurd (Option.some.inj same).symm different
  | returned =>
    refine ⟨⟨nofun, nofun⟩, fun other different => ⟨nofun, fun same => ?_⟩⟩
    rw [had.mpr rfl] at same
    exact absurd (Option.some.inj same).symm different

/-- No two runs have one token. -/
theorem IsToken.unique (isToken : IsToken members has token) {other : Nat} {second : Member}
    (found : members[run]? = some member) (one : has member = true)
    (alsoFound : members[other]? = some second) (another : has second = true) : run = other := by
  have first := (isToken run).mpr ⟨member, found, one⟩
  rw [(isToken other).mpr ⟨second, alsoFound, another⟩] at first
  exact (Option.some.inj first).symm

/-- **A step of one run keeps a token where it belongs.** -/
theorem IsToken.set (isToken : IsToken members has token) (found : members[run]? = some member)
    (handing : Handing run (has member) (has next) token later) :
    IsToken (members.set run next) has later := by
  have had : token = some run ↔ has member = true := by
    rw [isToken run, found]
    exact ⟨fun ⟨_, same, held⟩ => Option.some.inj same ▸ held, fun held => ⟨member, rfl, held⟩⟩
  obtain ⟨own, others⟩ := handing.iff had
  intro other
  by_cases same : other = run
  · obtain ⟨within, _⟩ := List.getElem?_eq_some_iff.mp found
    rw [same, own, List.getElem?_set_self within]
    exact ⟨fun held => ⟨next, rfl, held⟩, fun ⟨_, new, held⟩ => Option.some.inj new ▸ held⟩
  · rw [others other same, isToken other, List.getElem?_set_ne (Ne.symm same)]

/-- A run that was just asked for has no token. -/
theorem IsToken.append (isToken : IsToken members has token) (without : has next = false) :
    IsToken (members ++ [next]) has token := by
  intro other
  rw [isToken other]
  refine exists_congr fun second => and_congr_left fun held => ?_
  rcases Nat.lt_trichotomy other members.length with less | same | greater
  · rw [List.getElem?_append_left less]
  · rw [same, List.getElem?_concat_length, List.getElem?_eq_none (Nat.le_refl _)]
    refine ⟨nofun, fun new => ?_⟩
    rw [← Option.some.inj new, without] at held
    cases held
  · rw [List.getElem?_eq_none (Nat.le_of_lt greater), List.getElem?_eq_none]
    rw [List.length_append, List.length_singleton]
    exact greater

end Tokens

/-- **Who holds the lock** goes along with what is done to it: a run takes it only while nobody holds
it, and gives back its own. -/
theorem LockStep.exists_holder {log calls : List LockCall} {before after : Bool}
    (step : LockStep log before after calls) (run : Nat) {holder : Option Nat}
    (held : holder ≠ none → isHeld log = true) :
    ∃ later, Handing run before after holder later ∧
      (later ≠ none → isHeld (calls ++ log) = true) := by
  cases step with
  | kept => exact ⟨holder, .kept _ holder, held⟩
  | missed => exact ⟨holder, .kept false holder, held⟩
  | taken free =>
    have nobody : holder = none := by
      by_contra someone
      rw [held someone] at free
      cases free
    subst nobody
    exact ⟨some run, .taken, fun _ => rfl⟩
  | returned => exact ⟨none, .returned holder, nofun⟩

/-! ### Moves -/

/-- A run has shown what leads to where it stands. -/
def Member.IsOnCourse (member : Member) : Prop :=
  sharedSteps member.journal.reverse = member.stage.course

/-- **What a service shows is what the run that occupies it has shown last**, and nothing when there
is none. -/
structure Shows (member : Member) (service : Service) : Prop where
  occupied : member.stage.occupies = true → service.phase = member.phase
  vacant : service.occupant = none → service.phase = .idle

/-- A run that is seen from outside only so far has shown this phase last. -/
theorem Member.phase_eq (member : Member) :
    member.phase = ((sharedSteps member.journal.reverse).reverse.findSome? Step.phase?).getD .idle := by
  rw [Member.phase, sharedSteps, List.filter_reverse, List.reverse_reverse]
  congr 1
  induction member.journal with
  | nil => rfl
  | cons step rest ih => cases step <;> first | rfl | exact ih

namespace Stage.IsStep

variable {job : Job} {turns : List Fleet.Turn} {world after : World σ δ} {stage next : Stage}

/-- No step lets a run into its service or out of it. -/
theorem occupies_eq (step : stage.IsStep servers job turns world next after) :
    next.occupies = stage.occupies := by
  cases step <;> rfl

/-- A run that is not in its service does nothing. -/
theorem eq_of_outside (step : stage.IsStep servers job turns world next after)
    (outside : stage.occupies = false) : next = stage ∧ after = world := by
  cases step with
  | rest => exact ⟨rfl, rfl⟩
  | begin | lock | lockOut | fail | work | go | release | idle => cases outside

end Stage.IsStep

theorem World.entered?_of_notes {before after : World σ δ} {notes : List Step}
    (noted : before.Notes notes after) :
    before.entered? after = notes.reverse.findSome? Step.phase? := by
  rw [World.Notes] at noted
  rw [World.entered?, noted, List.length_append, Nat.add_sub_cancel, List.take_left]

theorem World.entered?_self (world : World σ δ) : world.entered? world = none := by
  have nothing : world.Notes [] world := rfl
  exact World.entered?_of_notes nothing

section Moves

variable {run : Nat} {member : Member} {service : Service} {world : World σ δ} {move : Move σ δ}

/-- A run stays with its service and its job. -/
theorem IsMove.stays (isMove : IsMove servers run member service world move) :
    move.member.service = member.service ∧ move.member.job = member.job := by
  cases isMove <;> exact ⟨rfl, rfl⟩

/-- **A run occupies its service when it is free and vacates it itself.** -/
theorem IsMove.service_handing (isMove : IsMove servers run member service world move) :
    Handing run member.stage.occupies move.member.stage.occupies service.occupant
      move.service.occupant := by
  cases isMove with
  | enter stage free =>
    rw [stage, free]
    exact .taken
  | turnAway stage =>
    rw [stage]
    exact .kept _ _
  | @step next _ step =>
    show Handing run member.stage.occupies next.occupies service.occupant service.occupant
    rw [step.occupies_eq]
    exact .kept _ _
  | leave stage =>
    rw [stage]
    exact .returned _

/-- **A move stays on the course.** -/
theorem IsMove.isOnCourse (isMove : IsMove servers run member service world move)
    (own : world.journal = member.journal) (course : member.IsOnCourse) :
    move.member.IsOnCourse := by
  rw [Member.IsOnCourse] at course
  cases isMove with
  | enter stage | turnAway stage | leave stage =>
    rw [stage] at course
    exact course
  | @step next after step =>
    obtain ⟨notes, noted, leads⟩ := step.exists_notes
    rw [World.Notes, own] at noted
    show sharedSteps after.journal.reverse = next.course
    rw [noted, leads, ← course, List.reverse_append, List.reverse_reverse]
    exact List.filter_append ..

/-- **A move does to the lock what the stage says.** -/
theorem IsMove.exists_calls {key : Int} {log : σ → List LockCall}
    (keeps : servers.source.KeepsLock key log) (shared : member.job.settings.lockKey = key)
    (isMove : IsMove servers run member service world move) :
    ∃ calls, log move.world.source = calls ++ log world.source ∧
      LockStep (log world.source) member.stage.holdsLock move.member.stage.holdsLock calls ∧
      ∀ earlier, member.stage.Called earlier → move.member.stage.Called (calls ++ earlier) := by
  cases isMove with
  | enter stage | turnAway stage | leave stage =>
    rw [stage]
    exact ⟨[], rfl, .kept _, fun _ called => called⟩
  | step step => exact step.exists_calls keeps shared

/-- **A move shows what it notes.** -/
theorem IsMove.shows (isMove : IsMove servers run member service world move)
    (own : world.journal = member.journal) (course : member.IsOnCourse)
    (occupant : service.occupant = some run ↔ member.stage.occupies = true)
    (shows : Shows member service) : Shows move.member move.service := by
  have phase := member.phase_eq
  rw [course] at phase
  cases isMove with
  | enter stage free =>
    rw [stage] at phase
    exact ⟨fun _ => (shows.vacant free).trans phase.symm, nofun⟩
  | turnAway stage busy => exact ⟨nofun, shows.vacant⟩
  | @step next after step =>
    refine ⟨fun occupies => ?_, fun free => ?_⟩
    · obtain ⟨notes, noted, _⟩ := step.exists_notes
      have before := shows.occupied (step.occupies_eq ▸ occupies)
      show (world.entered? after).getD service.phase =
        (after.journal.findSome? Step.phase?).getD .idle
      rw [World.entered?_of_notes noted, before, show after.journal = _ from noted,
        List.findSome?_append, own]
      cases notes.reverse.findSome? Step.phase? <;> rfl
    · have outside : member.stage.occupies = false := by
        rw [← Bool.not_eq_true, ← occupant, show service.occupant = none from free]
        exact nofun
      obtain ⟨_, rfl⟩ := step.eq_of_outside outside
      show (World.entered? _ _).getD service.phase = .idle
      rw [World.entered?_self]
      exact shows.vacant free
  | leave stage =>
    rw [stage] at phase
    refine ⟨nofun, fun _ => (shows.occupied (by rw [stage]; rfl)).trans (phase.trans ?_)⟩
    rw [Stage.course, List.reverse_append]
    rfl

/-- A run that finds its service busy leaves it as it is. -/
theorem IsMove.service_eq (isMove : IsMove servers run member service world move)
    (outside : member.stage.occupies = false) (busy : service.occupant ≠ none) :
    move.service = service := by
  cases isMove with
  | enter stage free => exact absurd free busy
  | turnAway stage => rfl
  | step step =>
    obtain ⟨_, rfl⟩ := step.eq_of_outside outside
    rw [Move.going, World.entered?_self]
    rfl
  | leave stage =>
    rw [stage] at outside
    cases outside

end Moves

end SchemaFerry.Run
