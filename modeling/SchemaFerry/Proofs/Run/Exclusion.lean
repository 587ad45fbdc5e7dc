/-
**One run at a time.**

Runs of any number of services, on one source and one destination, come in between each other as they
please. What a service shows is what the run that occupies it has shown last, and the run that has
the lock is the only one that works.

* `IsConsistent` — what is true between any two events: the tokens name the runs that have them, the
  journal of every run is the course that leads to where it stands, and so is what it has done to
  the lock. Kept by every move of a run (`isConsistent_moved`), so true after any events
  (`isConsistent_afterAll`).
* `IsSafe` — what follows: no two runs hold the lock, a service that shows a phase is occupied by
  exactly one run, a run that finds its service busy does nothing, a run gives the lock back once if
  it got it, without a change of its result, and a run that goes on alone does what a start does.
* **`runs_areSafe`** — runs that share the lock of a source are safe after any events.
-/

import SchemaFerry.Proofs.Run.Alone
import SchemaFerry.Proofs.Run.Tokens

namespace SchemaFerry.Run

open SchemaFerry.Report SchemaFerry.Source

variable {σ δ : Type} {servers : Servers σ δ}

/-! ### What runs do to the lock -/

/-- What was done to a lock between two logs, the last call first. -/
def newCalls (before after : List LockCall) : List LockCall :=
  after.take (after.length - before.length)

theorem newCalls_append (calls before : List LockCall) :
    newCalls before (calls ++ before) = calls := by
  rw [newCalls, List.length_append, Nat.add_sub_cancel, List.take_left]

theorem newCalls_self (log : List LockCall) : newCalls log log = [] :=
  newCalls_append [] log

/-- An event in which a job, if one is asked for, is to be done under the lock with a key. -/
def Event.Shares (key : Int) : Event → Prop
  | ask _ job _ => job.settings.lockKey = key
  | act _ => True

instance (key : Int) : DecidablePred (Event.Shares key)
  | .ask _ job _ => inferInstanceAs (Decidable (job.settings.lockKey = key))
  | .act _ => .isTrue trivial

namespace System

/-- What a run does to the lock in an event, the last call first. -/
def callsIn (servers : Servers σ δ) (log : σ → List LockCall) (run : Nat) (system : System σ δ)
    (event : Event) : List LockCall :=
  if event.isActOf run then newCalls (log system.source) (log (system.after servers event).source)
  else []

/-- What a run does to the lock in events in turn, the last call first. -/
def callsOf (servers : Servers σ δ) (log : σ → List LockCall) (run : Nat) (system : System σ δ) :
    List Event → List LockCall
  | [] => []
  | event :: rest =>
    callsOf servers log run (system.after servers event) rest ++
      system.callsIn servers log run event

end System

/-! ### Between two events -/

/-- Whether a run occupies a service. -/
def Member.occupies (service : Nat) (member : Member) : Bool :=
  member.service == service && member.stage.occupies

/-- A run occupies a service. -/
def System.IsOccupied (system : System σ δ) (service run : Nat) : Prop :=
  ∃ member, system.members[run]? = some member ∧ member.occupies service = true

/-- **What is true between any two events** of runs that have done calls to the lock. -/
structure System.IsConsistent (key : Int) (log : σ → List LockCall) (system : System σ δ)
    (calls : Nat → List LockCall) : Prop where
  lock : ∃ holder, IsToken system.members (·.stage.holdsLock) holder ∧
    (holder ≠ none → isHeld (log system.source) = true)
  guards : ∀ service,
    IsToken system.members (·.occupies service) (system.services service).occupant
  courses : ∀ {run : Nat} {member : Member}, system.members[run]? = some member →
    member.IsOnCourse ∧ Shows member (system.services member.service)
  vacant : ∀ service,
    (system.services service).occupant = none → (system.services service).phase = .idle
  called : ∀ {run : Nat} {member : Member}, system.members[run]? = some member →
    member.job.settings.lockKey = key ∧ member.stage.Called (calls run)
  uncalled : ∀ {run : Nat}, system.members[run]? = none → calls run = []

namespace System

variable {system : System σ δ} {key : Int} {log : σ → List LockCall} {calls : Nat → List LockCall}
  {run : Nat} {member : Member}

theorem isConsistent_empty (source : σ) (target : δ) :
    (empty source target).IsConsistent key log fun _ => [] where
  lock := ⟨none, fun _ => ⟨nofun, fun ⟨_, found, _⟩ => by cases found⟩, fun held => absurd rfl held⟩
  guards service run := ⟨nofun, fun ⟨_, found, _⟩ => by cases found⟩
  courses found := by cases found
  vacant _ _ := rfl
  called found := by cases found
  uncalled _ := rfl

/-- A run of the runs that were asked for, with one more: it is one of those before, or the new
one. -/
theorem found_append {members : List Member} {fresh : Member}
    (found : (members ++ [fresh])[run]? = some member) :
    members[run]? = some member ∨ (members[run]? = none ∧ member = fresh) := by
  rw [List.getElem?_append] at found
  split at found
  · exact .inl found
  · next beyond =>
    exact .inr ⟨List.getElem?_eq_none (Nat.not_lt.mp beyond),
      List.mem_singleton.mp (List.mem_of_getElem? found)⟩

/-- A run that is asked for changes nothing for the others. -/
theorem isConsistent_ask (consistent : system.IsConsistent key log calls) {service : Nat} {job : Job}
    {turns : List Fleet.Turn} (shared : job.settings.lockKey = key) :
    (system.after servers (.ask service job turns)).IsConsistent key log calls where
  lock := by
    obtain ⟨holder, isToken, held⟩ := consistent.lock
    exact ⟨holder, isToken.append rfl, held⟩
  guards other := (consistent.guards other).append (Bool.and_false _)
  courses found := by
    rcases found_append found with before | ⟨_, rfl⟩
    · exact consistent.courses before
    · exact ⟨rfl, nofun, consistent.vacant service⟩
  vacant := consistent.vacant
  called found := by
    rcases found_append found with before | ⟨new, rfl⟩
    · exact consistent.called before
    · exact ⟨shared, consistent.uncalled new⟩
  uncalled absent := by
    refine consistent.uncalled (List.getElem?_eq_none ?_)
    have within := List.getElem?_eq_none_iff.mp absent
    rw [after, List.length_append] at within
    exact Nat.le_of_add_right_le within

/-- The run that occupies its service is named by it. -/
theorem IsConsistent.occupant_iff (consistent : system.IsConsistent key log calls)
    (found : system.members[run]? = some member) :
    (system.services member.service).occupant = some run ↔ member.stage.occupies = true := by
  rw [consistent.guards member.service run, found]
  constructor
  · rintro ⟨_, same, occupies⟩
    cases same
    exact (Bool.and_eq_true_iff.mp occupies).2
  · intro occupies
    exact ⟨member, rfl, Bool.and_eq_true_iff.mpr ⟨beq_self_eq_true _, occupies⟩⟩

section Moved

variable {move : Move σ δ}

theorem services_moved_self (isMove : IsMove servers run member (system.services member.service)
    (system.world member) move) :
    (system.moved run move).services member.service = move.service :=
  if_pos isMove.stays.1.symm

theorem services_moved_of_ne (isMove : IsMove servers run member (system.services member.service)
    (system.world member) move) {service : Nat} (different : service ≠ member.service) :
    (system.moved run move).services service = system.services service :=
  if_neg (isMove.stays.1 ▸ different)

/-- After a move the other runs are where they were. -/
theorem found_moved (found : system.members[run]? = some member) {other : Nat} {second : Member}
    (alsoFound : (system.moved run move).members[other]? = some second) :
    (other = run ∧ second = move.member) ∨ (other ≠ run ∧ system.members[other]? = some second) := by
  by_cases same : other = run
  · subst same
    rw [moved, List.getElem?_set_self (List.getElem?_eq_some_iff.mp found).1] at alsoFound
    exact .inl ⟨rfl, (Option.some.inj alsoFound).symm⟩
  · rw [moved, List.getElem?_set_ne (Ne.symm same)] at alsoFound
    exact .inr ⟨same, alsoFound⟩

/-- A move keeps every service with the run that it names. -/
theorem guards_moved (consistent : system.IsConsistent key log calls)
    (found : system.members[run]? = some member)
    (isMove : IsMove servers run member (system.services member.service) (system.world member) move)
    (service : Nat) :
    IsToken (system.moved run move).members (·.occupies service)
      ((system.moved run move).services service).occupant := by
  by_cases same : service = member.service
  · subst same
    rw [services_moved_self isMove]
    refine (consistent.guards member.service).set found ?_
    show Handing run (member.service == member.service && member.stage.occupies)
      (move.member.service == member.service && move.member.stage.occupies) _ _
    rw [isMove.stays.1, beq_self_eq_true, Bool.true_and, Bool.true_and]
    exact isMove.service_handing
  · rw [services_moved_of_ne isMove same]
    refine (consistent.guards service).set found ?_
    show Handing run (member.service == service && member.stage.occupies)
      (move.member.service == service && move.member.stage.occupies) _ _
    rw [isMove.stays.1, beq_false_of_ne (Ne.symm same), Bool.false_and, Bool.false_and]
    exact .kept _ _

/-- After a move every service shows what the run that occupies it has shown. -/
theorem courses_moved (consistent : system.IsConsistent key log calls)
    (found : system.members[run]? = some member)
    (isMove : IsMove servers run member (system.services member.service) (system.world member) move)
    {other : Nat} {second : Member}
    (alsoFound : (system.moved run move).members[other]? = some second) :
    second.IsOnCourse ∧ Shows second ((system.moved run move).services second.service) := by
  obtain ⟨course, shows⟩ := consistent.courses found
  have occupant := consistent.occupant_iff found
  have new := isMove.shows rfl course occupant shows
  rcases found_moved found alsoFound with ⟨_, rfl⟩ | ⟨different, before⟩
  · rw [isMove.stays.1, services_moved_self isMove]
    exact ⟨isMove.isOnCourse rfl course, new⟩
  · obtain ⟨courseSecond, showsSecond⟩ := consistent.courses before
    refine ⟨courseSecond, ?_⟩
    by_cases shared : second.service = member.service
    · rw [shared, services_moved_self isMove]
      refine ⟨fun occupies => ?_, new.vacant⟩
      -- The other run occupies the service, so this one is outside and can only be turned away.
      have holds := (consistent.occupant_iff before).mpr occupies
      rw [shared] at holds
      have outside : member.stage.occupies = false := by
        rw [← Bool.not_eq_true, ← occupant, holds]
        exact fun named => different (Option.some.inj named)
      have busy : (system.services member.service).occupant ≠ none := by
        rw [holds]
        exact Option.some_ne_none other
      rw [isMove.service_eq outside busy, ← shared]
      exact showsSecond.occupied occupies
    · rw [services_moved_of_ne isMove shared]
      exact showsSecond

/-- **A move keeps the system consistent**, with what the run did to the lock in it. -/
theorem isConsistent_moved (keeps : servers.source.KeepsLock key log)
    (consistent : system.IsConsistent key log calls) (found : system.members[run]? = some member)
    (isMove : IsMove servers run member (system.services member.service) (system.world member)
      move) :
    (system.moved run move).IsConsistent key log fun other =>
      (if run == other then newCalls (log system.source) (log move.world.source) else []) ++
        calls other := by
  obtain ⟨shared, before⟩ := consistent.called found
  obtain ⟨new, added, step, leads⟩ := isMove.exists_calls keeps shared
  have own : newCalls (log system.source) (log move.world.source) = new := by
    rw [added]
    exact newCalls_append new _
  obtain ⟨holder, isToken, held⟩ := consistent.lock
  obtain ⟨later, handing, heldAfter⟩ := step.exists_holder run held
  refine ⟨⟨later, isToken.set found handing, ?_⟩, guards_moved consistent found isMove,
    courses_moved consistent found isMove, fun service free => ?_, fun alsoFound => ?_, ?_⟩
  · show _ → isHeld (log move.world.source) = true
    rwa [added]
  · by_cases same : service = member.service
    · subst same
      have new := (courses_moved consistent found isMove
        (List.getElem?_set_self (List.getElem?_eq_some_iff.mp found).1)).2
      rw [isMove.stays.1] at new
      exact new.vacant free
    · rw [services_moved_of_ne isMove same] at free ⊢
      exact consistent.vacant service free
  · rcases found_moved found alsoFound with ⟨rfl, rfl⟩ | ⟨different, there⟩
    · rw [if_pos (beq_self_eq_true _), own]
      exact ⟨isMove.stays.2 ▸ shared, leads _ before⟩
    · rw [if_neg fun same => different (beq_iff_eq.mp same).symm, List.nil_append]
      exact consistent.called there
  · intro other absent
    have beyond : system.members[other]? = none := by
      rwa [List.getElem?_eq_none_iff, moved, List.length_set, ← List.getElem?_eq_none_iff] at absent
    have different : ¬ (run == other) = true := by
      intro same
      cases beq_iff_eq.mp same
      cases found.symm.trans beyond
    rw [if_neg different, List.nil_append]
    exact consistent.uncalled beyond

end Moved

/-- An event keeps the system consistent, with what the runs did to the lock in it. -/
theorem isConsistent_after (keeps : servers.source.KeepsLock key log)
    (consistent : system.IsConsistent key log calls) {event : Event} (shares : event.Shares key) :
    (system.after servers event).IsConsistent key log fun run =>
      system.callsIn servers log run event ++ calls run := by
  cases event with
  | ask service job turns => exact isConsistent_ask consistent shares
  | act run =>
    rcases found : system.members[run]? with _ | member
    · have still : system.act servers run = system := by
        rw [act, found]
      simp only [after, callsIn, still, newCalls_self, ite_self, List.nil_append]
      exact consistent
    · have made := Move.of_cases servers run member (system.services member.service)
        (system.world member)
      have goes : system.act servers run = system.moved run (.of servers run member
          (system.services member.service) (system.world member)) := by
        rw [act, found]
      simp only [after, callsIn, goes]
      exact isConsistent_moved keeps consistent found made

/-- **After any events the system is consistent**, with all that the runs did to the lock. -/
theorem isConsistent_afterAll (keeps : servers.source.KeepsLock key log)
    (consistent : system.IsConsistent key log calls) {events : List Event}
    (shares : ∀ event ∈ events, event.Shares key) :
    (system.afterAll servers events).IsConsistent key log fun run =>
      system.callsOf servers log run events ++ calls run := by
  induction events generalizing system calls with
  | nil => exact consistent
  | cons event rest ih =>
    have first := isConsistent_after keeps consistent (shares event List.mem_cons_self)
    have all := ih first fun other member => shares other (List.mem_cons_of_mem _ member)
    simp only [callsOf, List.append_assoc]
    exact all

end System

/-! ### Results -/

/-- A run has ended with what its work came to. -/
def Finish.HasWorked (result : Except Fault CopyReport) : Finish → Prop
  | worked other => other = result
  | lockedOut | unlocked _ => False

/-- The work of a run has come to a result. -/
def Stage.HasWorked (result : Except Fault CopyReport) : Stage → Prop
  | working (.done other) => other = result
  | leaving finish | idling finish | ended finish => finish.HasWorked result
  | _ => False

/-- **What the work came to is what the run comes to**: giving back the lock does not change it. -/
theorem Stage.IsStep.hasWorked {job : Job} {turns : List Fleet.Turn} {world after : World σ δ}
    {stage next : Stage} {result : Except Fault CopyReport}
    (step : stage.IsStep servers job turns world next after) (worked : stage.HasWorked result) :
    next.HasWorked result := by
  cases step with
  | begin | lock | lockOut | fail | work => exact worked.elim
  | go step => cases step <;> first | exact worked | exact worked.elim
  | release | idle | rest => exact worked

namespace System

/-- The work of a run of a system has come to a result. -/
def HasWorked (system : System σ δ) (run : Nat) (result : Except Fault CopyReport) : Prop :=
  ∃ member, system.members[run]? = some member ∧ member.stage.HasWorked result

variable {system : System σ δ} {run : Nat} {result : Except Fault CopyReport}

/-- No event changes what the work of a run came to. -/
theorem hasWorked_after (servers : Servers σ δ) (worked : system.HasWorked run result)
    (event : Event) : (system.after servers event).HasWorked run result := by
  obtain ⟨member, found, worked⟩ := worked
  have within := (List.getElem?_eq_some_iff.mp found).1
  cases event with
  | ask service job turns =>
    exact ⟨member, (List.getElem?_append_left within).trans found, worked⟩
  | act other =>
    rw [after, act]
    split
    · exact ⟨member, found, worked⟩
    · next mover foundMover =>
      by_cases same : other = run
      · subst same
        cases found.symm.trans foundMover
        refine ⟨_, List.getElem?_set_self within, ?_⟩
        have isMove := Move.of_cases servers other member (system.services member.service)
          (system.world member)
        generalize Move.of servers other member _ _ = move at isMove
        cases isMove with
        | enter stage | turnAway stage =>
          rw [stage] at worked
          exact worked.elim
        | step step => exact step.hasWorked worked
        | leave stage =>
          rw [stage] at worked
          exact worked
      · exact ⟨member, (List.getElem?_set_ne same).trans found, worked⟩

theorem hasWorked_afterAll (servers : Servers σ δ) (worked : system.HasWorked run result)
    (events : List Event) : (system.afterAll servers events).HasWorked run result := by
  refine List.foldlRecOn (motive := fun later => later.HasWorked run result) events
    (after servers) worked fun before held event _ => ?_
  exact hasWorked_after servers held event

end System

/-! ### Safety -/

/-- **What holds of runs that share a lock** with a log, which have done calls to it.

* `exclusive`, `held` — one run at most has the lock, and the lock is held then;
* `guarded`, `shown` — a service that shows a phase is occupied by exactly one run, and shows the
  phase that this run has entered last;
* `turnedAway` — a run that finds its service busy is turned away, and nothing else happens;
* `course` — what a run has shown is fixed by where it stands;
* `released`, `noted` — a run is given the lock once at most, and has given it back once if it was
  given it and has it no more; its journal has the same of it;
* `settled` — what the work came to stays, whatever comes of giving the lock back;
* `started` — a run that goes on alone does what a start does. -/
structure System.IsSafe (servers : Servers σ δ) (log : σ → List LockCall) (system : System σ δ)
    (calls : Nat → List LockCall) : Prop where
  exclusive : ∀ {first second : Nat} {one other : Member}, system.members[first]? = some one →
    system.members[second]? = some other → one.stage.holdsLock = true →
      other.stage.holdsLock = true → first = second
  held : ∀ {run : Nat} {member : Member}, system.members[run]? = some member →
    member.stage.holdsLock = true → isHeld (log system.source) = true
  guarded : ∀ service, (system.services service).phase ≠ .idle →
    ∃! run, system.IsOccupied service run
  shown : ∀ {run : Nat} {member : Member}, system.members[run]? = some member →
    member.stage.occupies = true → (system.services member.service).phase = member.phase
  turnedAway : ∀ {run : Nat} {member : Member}, system.members[run]? = some member →
    member.stage = .asked → (system.services member.service).occupant ≠ none →
      system.act servers run = { system with
        members := system.members.set run { member with stage := .turnedAway } }
  course : ∀ {run : Nat} {member : Member}, system.members[run]? = some member →
    sharedSteps member.journal.reverse = member.stage.course
  released : ∀ {run : Nat} {member : Member}, system.members[run]? = some member →
    (calls run).count (.tried true) ≤ 1 ∧ (calls run).count .gaveBack =
      if member.stage.holdsLock then 0 else (calls run).count (.tried true)
  noted : ∀ {run : Nat} {member : Member}, system.members[run]? = some member →
    member.journal.count .gotLock = (calls run).count (.tried true) ∧
      member.journal.count .releaseLock = (calls run).count .gaveBack
  settled : ∀ {run : Nat} {member : Member} {result : Except Fault CopyReport},
    system.members[run]? = some member → member.stage = .working (.done result) →
      ∀ events, (system.afterAll servers events).HasWorked run result
  started : ∀ {run : Nat} {member : Member}, system.members[run]? = some member →
    member.stage = .asked → system.ComesAlone servers run member

/-- A run is given the lock once at most, and gives it back once if it was given it. -/
theorem Stage.Called.released {stage : Stage} {calls : List LockCall} (called : stage.Called calls) :
    calls.count (.tried true) ≤ 1 ∧
      calls.count .gaveBack = if stage.holdsLock then 0 else calls.count (.tried true) := by
  cases stage with
  | asked | turnedAway | entered | locking | locked | working =>
    obtain rfl := called
    exact ⟨by decide, rfl⟩
  | leaving finish | idling finish | ended finish =>
    cases finish with
    | lockedOut | worked =>
      obtain rfl := called
      exact ⟨by decide, rfl⟩
    | unlocked =>
      obtain rfl | rfl := called <;> exact ⟨by decide, rfl⟩

/-- What a run has shown of the lock is what it has done to it. -/
theorem Stage.Called.count_course {stage : Stage} {calls : List LockCall}
    (called : stage.Called calls) :
    stage.course.count .gotLock = calls.count (.tried true) ∧
      stage.course.count .releaseLock = calls.count .gaveBack := by
  cases stage with
  | asked | turnedAway | entered | locking | locked =>
    obtain rfl := called
    exact ⟨rfl, rfl⟩
  | working stage =>
    obtain rfl := called
    rw [course]
    cases stage.hasFinalized <;> exact ⟨rfl, rfl⟩
  | leaving finish | idling finish | ended finish =>
    cases finish with
    | lockedOut =>
      obtain rfl := called
      exact ⟨rfl, rfl⟩
    | worked result =>
      obtain rfl := called
      cases result <;> exact ⟨rfl, rfl⟩
    | unlocked =>
      obtain rfl | rfl := called <;> exact ⟨rfl, rfl⟩

/-- A step that is seen from outside was noted as often as it was shown. -/
theorem count_sharedSteps {step : Step} (shared : step.isShared = true) (journal : List Step) :
    journal.count step = (sharedSteps journal.reverse).count step := by
  rw [sharedSteps, List.count_filter shared, List.count_reverse]

namespace System.IsConsistent

variable {system : System σ δ} {key : Int} {log : σ → List LockCall} {calls : Nat → List LockCall}

/-- A service that shows a phase is occupied by exactly one run. -/
theorem guarded (consistent : system.IsConsistent key log calls) {service : Nat}
    (shows : (system.services service).phase ≠ .idle) :
    ∃! run, system.IsOccupied service run := by
  have occupied : (system.services service).occupant ≠ none :=
    fun free => shows (consistent.vacant service free)
  obtain ⟨run, holds⟩ := Option.ne_none_iff_exists'.mp occupied
  refine ⟨run, (consistent.guards service run).mp holds, fun other also => ?_⟩
  rw [(consistent.guards service other).mpr also] at holds
  exact Option.some.inj holds

/-- A consistent system is safe. -/
theorem isSafe (servers : Servers σ δ) (consistent : system.IsConsistent key log calls) :
    system.IsSafe servers log calls where
  exclusive found alsoFound one other := by
    obtain ⟨_, isToken, _⟩ := consistent.lock
    exact isToken.unique found one alsoFound other
  held found holds := by
    obtain ⟨_, isToken, held⟩ := consistent.lock
    exact held (Option.ne_none_iff_exists'.mpr ⟨_, (isToken _).mpr ⟨_, found, holds⟩⟩)
  guarded _ shows := consistent.guarded shows
  shown found := (consistent.courses found).2.occupied
  turnedAway found asked busy := act_of_busy servers found asked busy
  course found := (consistent.courses found).1
  released found := (consistent.called found).2.released
  noted {run member} found := by
    obtain ⟨got, gave⟩ := (consistent.called found).2.count_course
    have course : sharedSteps member.journal.reverse = member.stage.course :=
      (consistent.courses found).1
    rw [← course] at got gave
    exact ⟨(count_sharedSteps rfl _).trans got, (count_sharedSteps rfl _).trans gave⟩
  settled found stage more := hasWorked_afterAll servers ⟨_, found, by rw [stage]; rfl⟩ more
  started found asked := exists_alone servers found asked

end System.IsConsistent

/-- **Runs that share the lock of a source are safe** after any events, whatever the servers answer
and however the runs of any number of services come in between each other. -/
theorem runs_areSafe {key : Int} {log : σ → List LockCall}
    (keeps : servers.source.KeepsLock key log) (source : σ) (target : δ) {events : List Event}
    (shares : ∀ event ∈ events, event.Shares key) :
    ((System.empty source target).afterAll servers events).IsSafe servers log fun run =>
      (System.empty source target).callsOf servers log run events := by
  have consistent := System.isConsistent_afterAll keeps
    (System.isConsistent_empty source target) shares
  simp only [List.append_nil] at consistent
  exact consistent.isSafe servers

/-- Three runs of the shop, by two services: the first one copies its tables under the lock, which
the second one asks for in vain meanwhile; the third one finds its service busy. -/
theorem runs_areSafe_in_memory :
    let first : System Source.Memory Target.Memory := .empty Shop.source (Shop.target [] [] [])
    let events : List Event :=
      [.ask 0 Shop.job Shop.turns, .ask 1 Shop.job [], .ask 0 Shop.job []] ++
        [0, 1, 0, 1, 0, 2, 0, 1, 1, 1].map .act ++ List.replicate 22 (.act 0)
    let system := first.afterAll Shop.servers events
    let calls := fun run => first.callsOf Shop.servers Memory.locks run events
    Shop.servers.source.KeepsLock 7 Memory.locks ∧ (∀ event ∈ events, event.Shares 7) ∧
      [0, 1, 2].map calls = [[.gaveBack, .tried true], [.tried false], []] ∧
      system.members.map (·.stage.outcome?.isSome) = [true, true, true] ∧
      system.IsSafe Shop.servers Memory.locks calls := by
  intro first events system calls
  have keeps : Shop.servers.source.KeepsLock 7 Memory.locks := Memory.keepsLock 7
  have shares : ∀ event ∈ events, event.Shares 7 := by decide
  exact ⟨keeps, shares, by decide +kernel, by decide +kernel,
    runs_areSafe keeps Shop.source (Shop.target [] [] []) shares⟩

end SchemaFerry.Run
