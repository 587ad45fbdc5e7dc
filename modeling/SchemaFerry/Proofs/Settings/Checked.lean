/-
**What settings are once they have been checked.**

A connection is *usable* for a family if neither its address nor its user is blank and it is one of
that family; settings are *sound* if both connections are usable, with names of schemas that are not
blank, the encryption of the source is a mode there is, and no count or time is zero. Each check
lets exactly the sound values pass:

* `Connection.check_eq_ok_iff`, `CopySettings.check_eq_ok_iff`: the parts;
* `Settings.check_eq_ok_iff`: all settings.
-/

import SchemaFerry.Settings.Check

namespace SchemaFerry

open SchemaFerry.Text

/-- A connection that can be used for databases of a family. -/
structure Connection.IsUsable (connection : Connection) (family : Family) : Prop where
  address : isAllBlank connection.address = false
  user : isAllBlank connection.user = false
  kind : connection.family = .ok family

/-- Settings with which tables can be copied. -/
structure CopySettings.IsSound (settings : CopySettings) : Prop where
  workers : 1 ≤ settings.workers
  batchSize : 1 ≤ settings.batchSize
  timeoutSeconds : 1 ≤ settings.timeoutSeconds
  progressSeconds : 1 ≤ settings.progressSeconds

/-- Settings with which the program can work. -/
structure Settings.IsSound (settings : Settings) : Prop where
  source : settings.source.IsUsable .postgres
  sourceSchema : isAllBlank settings.source.schema = false
  tlsMode : ∃ mode, TlsMode.ofName settings.source.tlsMode = .ok mode
  target : ∀ target, settings.target = some target →
    target.IsUsable .oracle ∧ isAllBlank target.schema = false
  copying : settings.copying.IsSound

section Checks

variable {α β : Type}

/-- One check and what comes after it give a value exactly if both do. -/
theorem bind_eq_ok_iff {first : Except Fault α} {next : α → Except Fault β} {value : β} :
    (first >>= next) = .ok value ↔ ∃ given, first = .ok given ∧ next given = .ok value := by
  cases first with
  | error fault => exact ⟨nofun, fun ⟨_, given, _⟩ => nomatch given⟩
  | ok given =>
    constructor
    · exact fun rest => ⟨given, rfl, rest⟩
    · rintro ⟨_, same, rest⟩
      cases same
      exact rest

/-- A check and what comes after it give a value exactly if the check passes and the rest does. -/
theorem bind_unit_eq_ok_iff {first : Except Fault Unit} {next : Except Fault β} {value : β} :
    (first >>= fun _ => next) = .ok value ↔ first = .ok () ∧ next = .ok value := by
  rw [bind_eq_ok_iff]
  exact ⟨fun ⟨_, passed, rest⟩ => ⟨passed, rest⟩, fun ⟨passed, rest⟩ => ⟨(), passed, rest⟩⟩

theorem require_eq_ok_iff {right : Bool} {problem : SettingsProblem} :
    require right problem = .ok () ↔ right = true := by
  cases right <;> simp [require]

theorem requireText_eq_ok_iff {side : Side} {field text : String} :
    requireText side field text = .ok () ↔ isAllBlank text = false := by
  rw [requireText, require_eq_ok_iff, Bool.not_eq_true']

theorem require_ne_zero_eq_ok_iff {count : Nat} {problem : SettingsProblem} :
    require (count != 0) problem = .ok () ↔ 1 ≤ count := by
  rw [require_eq_ok_iff, bne_iff_ne, Nat.one_le_iff_ne_zero]

end Checks

/-- **A connection is let pass** exactly if it can be used and its schema is not blank. -/
theorem Connection.check_eq_ok_iff {side : Side} {family : Family} {connection : Connection} :
    connection.check side family = .ok () ↔
      connection.IsUsable family ∧ isAllBlank connection.schema = false := by
  simp only [Connection.check, bind_unit_eq_ok_iff, requireText_eq_ok_iff]
  simp only [bind_eq_ok_iff, require_eq_ok_iff, beq_iff_eq]
  constructor
  · rintro ⟨address, user, schema, _, kind, rfl⟩
    exact ⟨⟨address, user, kind⟩, schema⟩
  · rintro ⟨usable, schema⟩
    exact ⟨usable.address, usable.user, schema, family, usable.kind, rfl⟩

/-- **Settings of a copy are let pass** exactly if none of them is zero. -/
theorem CopySettings.check_eq_ok_iff {settings : CopySettings} :
    settings.check = .ok () ↔ settings.IsSound := by
  simp only [CopySettings.check, bind_unit_eq_ok_iff, require_ne_zero_eq_ok_iff]
  exact ⟨fun ⟨workers, batchSize, timeout, progress⟩ => ⟨workers, batchSize, timeout, progress⟩,
    fun sound => ⟨sound.workers, sound.batchSize, sound.timeoutSeconds, sound.progressSeconds⟩⟩

/-- **Settings are let pass** exactly if they are sound. -/
theorem Settings.check_eq_ok_iff {settings : Settings} :
    settings.check = .ok () ↔ settings.IsSound := by
  obtain ⟨source, target, copying, _⟩ := settings
  simp only [Settings.check, bind_unit_eq_ok_iff, Connection.check_eq_ok_iff]
  simp only [bind_eq_ok_iff]
  cases target with
  | none =>
    constructor
    · rintro ⟨⟨usable, schema⟩, mode, known, counts⟩
      exact ⟨usable, schema, ⟨mode, known⟩, nofun, CopySettings.check_eq_ok_iff.mp counts⟩
    · rintro ⟨usable, schema, ⟨mode, known⟩, -, counts⟩
      exact ⟨⟨usable, schema⟩, mode, known, CopySettings.check_eq_ok_iff.mpr counts⟩
  | some target =>
    simp only [bind_unit_eq_ok_iff, Connection.check_eq_ok_iff, CopySettings.check_eq_ok_iff]
    constructor
    · rintro ⟨⟨usable, schema⟩, mode, known, checked, counts⟩
      refine ⟨usable, schema, ⟨mode, known⟩, ?_, counts⟩
      intro _ same
      cases same
      exact checked
    · rintro ⟨usable, schema, ⟨mode, known⟩, checked, counts⟩
      exact ⟨⟨usable, schema⟩, mode, known, checked target rfl, counts⟩

end SchemaFerry
