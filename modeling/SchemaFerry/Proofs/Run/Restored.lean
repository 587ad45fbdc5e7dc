/-
**A clean report means that the foreign keys are back.**

Only two steps of a run alter foreign keys: the one that disables them and the one that enables
them. Whatever comes between, the copies in whichever turns and the sequences, leaves them as they
are (`Fleet.Course.along`). The last step is for every key that is not enabled by then, and
judges each one by where it stands afterwards.

* **`start_bringsKeysBack`** — at the end of a run that is completed each foreign key is enabled, or
  is named by a failure in the report, or the step that enables them failed as a whole; so if
  nothing failed, all foreign keys are enabled.
-/

import SchemaFerry.Proofs.Run.Moves
import SchemaFerry.Proofs.Run.Order

namespace SchemaFerry.Run

open SchemaFerry.Constraints SchemaFerry.Copy SchemaFerry.Report SchemaFerry.Target

variable {σ δ α : Type}

/-! ### Runs -/

/-- **The foreign keys are back** after a run, by where they stood before it and stand after it.

* `kept` — they are the same;
* `accounted` — each is enabled, or is named by a failure, or the step that enables them failed as a
  whole;
* `restored` — they are all enabled if nothing failed. -/
structure KeysAreBack (before after : Standings) (report : CopyReport) : Prop where
  kept : ∀ key, (after key).isSome = (before key).isSome
  accounted : ∀ key, (before key).isSome = true → after key = some "ENABLED" ∨
    (∃ reason, .failed key.label reason ∈ report.enabled) ∨
      ∃ reason, report.enabled = [.failed "enable foreign keys" reason]
  restored : report.isClean = true →
    ∀ key, (after key).isSome = true → after key = some "ENABLED"

/-- No outcome of a clean report is a failure. -/
theorem not_failed_of_isClean {report : CopyReport} (clean : report.isClean = true)
    (item reason : String) : Outcome.failed item reason ∉ report.enabled := by
  intro member
  have all := (Bool.and_eq_true_iff.mp clean).2
  have among : Outcome.failed item reason ∈ report.steps :=
    List.mem_append_right _ member
  cases List.all_eq_true.mp all _ among

section Runs

variable {servers : Servers σ δ} {job : Job} {isOurs : δ → Prop} {standing : δ → Standings}

/-- **Enabling foreign keys** accounts for each of them. -/
theorem accounts_of_enabling {server : Target.Server δ} {schema : String} {state after : δ}
    {enabled : Except Fault (List Outcome)} {outcomes : List Outcome}
    (byBlock : server.AltersByBlock schema isOurs standing) (ours : isOurs state)
    (plain : IsPlain (standing state))
    (enabling : (server.toggle schema .enable).result state = (enabled, after))
    (recorded : IsRecorded "enable foreign keys" enabled outcomes) {key : Key}
    (there : (standing state key).isSome = true) :
    standing after key = some "ENABLED" ∨ (∃ reason, .failed key.label reason ∈ outcomes) ∨
      ∃ reason, outcomes = [.failed "enable foreign keys" reason] := by
  obtain ⟨found, stands⟩ := Option.isSome_iff_exists.mp there
  rcases plain key found stands with rfl | rfl
  · obtain ⟨_, alters⟩ := (toggle_alters byBlock .enable).along enabling ours
    exact .inl (alters.enabled stands)
  · cases recorded with
    | failed fault => exact .inr (.inr ⟨fault.message, rfl⟩)
    | outcomes outcomes =>
      rcases toggle_accounts byBlock ours enabling stands with done | named
      · exact .inl done
      · exact .inr (.inl named)

/-- **A clean report means that the foreign keys are back**, whichever keys cannot be altered and
whatever happened to the copies of the tables, if nobody else alters the destination and keys are
enabled or disabled. -/
theorem start_bringsKeysBack
    (byBlock : servers.target.AltersByBlock job.targetSchema isOurs standing)
    (turns : List Fleet.Turn) (isBusy : Bool) (world : World σ δ) (ours : isOurs world.target)
    (plain : IsPlain (standing world.target)) {report : CopyReport}
    (completed : ((start servers job turns isBusy).run world).1 = .ok (.completed report)) :
    KeysAreBack (standing world.target)
      (standing ((start servers job turns isBusy).run world).2.target) report := by
  have besides := byBlock.besides
  have reading := servers.source.movesBesidesLock_true
  obtain ⟨outcome, after, run, comes⟩ := start_cases servers job turns isBusy world
  rw [run] at completed ⊢
  cases comes with
  | turnedAway | unlocked | lockedOut | stopped => cases completed
  | @completed tables estimate _ locked found copied lock discovered whole =>
    cases completed
    obtain ⟨disabling, copying, _, synchronizing, enabling, _, _, _, _, _, recorded⟩ :=
      goesAllTheWay_of_run lock discovered whole
    have atFound : KeepsKeys isOurs standing world.target found.target := by
      have kept := ((prepare_along reading besides.toMovesAlong job).along discovered).target
      rwa [show (locked.noted (.enter .running)).target = world.target from
        (takeLock_cases lock).2] at kept
    have atCopied := besides.sequences.through _ _ _ (copying.along reading besides).target
      (besides.synchronize.along synchronizing)
    obtain ⟨still, disabled⟩ :=
      (toggle_alters byBlock .disable).along disabling (atFound.ours ours)
    have oursAgain := atCopied.ours still
    obtain ⟨_, enabled⟩ := (toggle_alters byBlock .enable).along enabling oursAgain
    rw [← atCopied.same, atFound.same] at disabled
    have kept := fun key => (enabled.isSome_eq key).trans (disabled.isSome_eq key)
    have accounted := fun key (there : (standing world.target key).isSome = true) =>
      accounts_of_enabling byBlock oursAgain (disabled.isPlain plain) enabling recorded
        (disabled.isSome_eq key ▸ there)
    refine ⟨kept, accounted, fun clean key there => ?_⟩
    rcases accounted key (kept key ▸ there) with done | ⟨reason, member⟩ | ⟨reason, only⟩
    · exact done
    · exact absurd member (not_failed_of_isClean clean _ _)
    · exact absurd (only ▸ List.mem_singleton_self _) (not_failed_of_isClean clean _ reason)

/-- A run of the shop in which one foreign key cannot be altered and a table crashes. -/
theorem start_bringsKeysBack_in_memory :
    let keys : List (Constraints.Key × String) :=
      [(⟨"ITEMS", "FK_ITEMS_ORDERS"⟩, "DISABLED"), (⟨"ORDERS", "FK_ORDERS_USERS"⟩, "ENABLED")]
    let world : World Source.Memory Target.Memory :=
      ⟨Shop.source, Shop.target keys ["FK_ITEMS_ORDERS"] [], []⟩
    let turns : List Fleet.Turn := [.start, .start, .advance 0, .crash 1 "out of memory"]
    let run := (start Shop.servers Shop.job turns false).run world
    Shop.servers.target.AltersByBlock Shop.job.targetSchema Target.Memory.isOurs
        Target.Memory.standing ∧
      Target.Memory.isOurs world.target ∧ IsPlain (Target.Memory.standing world.target) ∧
      ∃ report, run.1 = .ok (.completed report) ∧
        KeysAreBack (Target.Memory.standing world.target)
          (Target.Memory.standing run.2.target) report := by
  intro keys world turns run
  have byBlock : Shop.servers.target.AltersByBlock Shop.job.targetSchema Target.Memory.isOurs
      Target.Memory.standing := Target.Memory.altersByBlock Shop.job.targetSchema
  have ours : Target.Memory.isOurs world.target := rfl
  have plain : IsPlain (Target.Memory.standing world.target) := by
    intro key found stands
    have among := Keyed.mem_of_lookup stands
    rw [show Statuses.ofListing world.target.constraints = keys by decide +kernel] at among
    rcases List.mem_pair.mp among with same | same
    · exact .inr (Prod.mk.inj same).2
    · exact .inl (Prod.mk.inj same).2
  have ran : (reportOf? run.1).isSome = true := by
    decide +kernel
  obtain ⟨report, given⟩ := Option.isSome_iff_exists.mp ran
  have completed := eq_of_reportOf? given
  exact ⟨byBlock, ours, plain, report, completed,
    start_bringsKeysBack byBlock turns false world ours plain completed⟩

end Runs

end SchemaFerry.Run
