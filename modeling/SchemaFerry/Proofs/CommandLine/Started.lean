/-
**With which settings a copy is started.**

The options of the subcommand go over the settings of the file, and the settings are checked again
with all of them but one: the name of the destination's schema. So nothing that was not checked
reaches a database but that name, which is blank exactly if a blank one is given.

* `copyRequest_eq_ok_iff`, `jobOf_eq_ok_iff`: exactly settings that are sound with the options over
  them, and have a destination, make a job;
* `deed_migrate`: that job is run, and without one no database is called;
* `migrate_startsChecked`: what is started has been checked but for that name.
-/

import SchemaFerry.CommandLine.Perform
import SchemaFerry.Proofs.Session
import SchemaFerry.Proofs.Settings.Checked

namespace SchemaFerry.CommandLine

open SchemaFerry.Text

/-- The job of settings with a destination, the options over them. -/
def jobWith (settings : Settings) (target : Connection) (given : Given) (timing : Run.Timing) :
    Run.Job where
  source := (overridden settings given).source
  target := { target with schema := (given.value? "target-schema").getD target.schema }
  settings := (overridden settings given).copying
  timing := timing

/-- The job that a file of settings and the options ask for. -/
def jobOf (timing : Run.Timing) (given : Given) (file : Except Fault (List UInt8)) :
    Except Fault Run.Job := do
  let request ← copyRequest (← settingsOf file) given
  return ⟨request.source, request.target, request.settings, timing⟩

/-- The destination that is required is that of the settings; no option goes over it. -/
theorem requireTarget_eq_ok_iff {settings : Settings} {given : Given} {target : Connection} :
    (overridden settings given).requireTarget = .ok target ↔ settings.target = some target := by
  obtain ⟨source, _ | kept, copying, scripts⟩ := settings
  · exact ⟨nofun, nofun⟩
  · simp [Settings.requireTarget, overridden]

/-- **There is a request** exactly if there is a destination and the settings with the options over
them are sound. -/
theorem copyRequest_eq_ok_iff {settings : Settings} {given : Given} {request : CopyRequest} :
    copyRequest settings given = .ok request ↔
      ∃ target, settings.target = some target ∧ (overridden settings given).IsSound ∧
        ⟨(overridden settings given).source,
          { target with schema := (given.value? "target-schema").getD target.schema },
          (overridden settings given).copying⟩ = request := by
  simp only [copyRequest, bind_eq_ok_iff]
  constructor
  · rintro ⟨target, required, ⟨⟩, passed, same⟩
    exact ⟨target, requireTarget_eq_ok_iff.mp required, Settings.check_eq_ok_iff.mp passed,
      Except.ok.inj same⟩
  · rintro ⟨target, named, sound, rfl⟩
    exact ⟨target, requireTarget_eq_ok_iff.mpr named, (), Settings.check_eq_ok_iff.mpr sound, rfl⟩

/-- **There is a job** exactly if there is a destination and the settings with the options over them
are sound. -/
theorem jobOf_eq_ok_iff {timing : Run.Timing} {given : Given} {file : Except Fault (List UInt8)}
    {job : Run.Job} :
    jobOf timing given file = .ok job ↔
      ∃ settings target, settingsOf file = .ok settings ∧ settings.target = some target ∧
        (overridden settings given).IsSound ∧ jobWith settings target given timing = job := by
  simp only [jobOf, bind_eq_ok_iff, copyRequest_eq_ok_iff]
  constructor
  · rintro ⟨settings, read, _, ⟨target, named, sound, rfl⟩, same⟩
    exact ⟨settings, target, read, named, sound, Except.ok.inj same⟩
  · rintro ⟨settings, target, read, named, sound, rfl⟩
    exact ⟨settings, read, _, ⟨target, named, sound, rfl⟩, rfl⟩

/-- What is left to do after a run, with the state of everything. -/
def afterRun {σ δ : Type} (writesJson : Bool)
    (ended : Except Fault Report.RunOutcome × Run.World σ δ) : Deed × Run.World σ δ :=
  match ended with
  | (.ok outcome, after) => (copyDeed writesJson outcome, after)
  | (.error fault, after) => (⟨none, "", some fault⟩, after)

/-- **A copy is started with its job or refused.** -/
theorem deed_migrate {σ δ : Type} (servers : Run.Servers σ δ) (timing : Run.Timing)
    (options given : Given) (file : Except Fault (List UInt8)) (world : Run.World σ δ) :
    deed servers timing ⟨options, .migrate given⟩ file world =
      match jobOf timing given file with
      | .ok job =>
        afterRun (Arguments.mk options (.migrate given)).writesJson
          ((Run.runOnce servers job).run world)
      | .error fault => (⟨none, "", some fault⟩, world) := by
  cases read : settingsOf file with
  | error fault =>
    simp only [deed, jobOf, read]
    rfl
  | ok settings =>
    have reads : jobOf timing given file = copyRequest settings given >>= fun request =>
        pure ⟨request.source, request.target, request.settings, timing⟩ := by
      rw [jobOf, read]
      rfl
    rw [reads]
    simp only [deed, read, perform, Session.result_bind]
    cases copyRequest settings given with
    | error fault => rfl
    | ok request =>
      show _ = afterRun _ ((Run.runOnce servers
        ⟨request.source, request.target, request.settings, timing⟩).run world)
      simp only [Session.ofExcept, Session.result_ofFunction]
      have lifted (run : StateM (Run.World σ δ) (Except Fault Report.RunOutcome)) :
          Session.result (ExceptT.lift run) world = (.ok (run.run world).1, (run.run world).2) :=
        Session.result_liftM run world
      rw [lifted]
      rcases StateT.run _ world with ⟨_ | outcome, after⟩ <;> rfl

/-- Whatever the databases are, the service is started with the job and nothing else is done. -/
def Starts (timing : Run.Timing) (arguments : Arguments) (file : Except Fault (List UInt8))
    (job : Run.Job) : Prop :=
  ∀ {σ δ : Type} (servers : Run.Servers σ δ) (world : Run.World σ δ),
    deed servers timing arguments file world =
      afterRun arguments.writesJson ((Run.runOnce servers job).run world)

/-- Whatever the databases are, none of them is called and the fault is reported. -/
def Refuses (timing : Run.Timing) (arguments : Arguments) (file : Except Fault (List UInt8))
    (fault : Fault) : Prop :=
  ∀ {σ δ : Type} (servers : Run.Servers σ δ) (world : Run.World σ δ),
    deed servers timing arguments file world = (⟨none, "", some fault⟩, world)

/-- A job that is asked for is started. -/
theorem starts_of_jobOf {timing : Run.Timing} {options given : Given}
    {file : Except Fault (List UInt8)} {job : Run.Job} (asked : jobOf timing given file = .ok job) :
    Starts timing ⟨options, .migrate given⟩ file job := by
  intro _ _ servers world
  rw [deed_migrate, asked]

/-- A job that has been checked, but for the name of the destination's schema if it is given. -/
structure IsChecked (given : Given) (job : Run.Job) : Prop where
  source : job.source.IsUsable .postgres
  sourceSchema : isAllBlank job.source.schema = false
  tlsMode : ∃ mode, TlsMode.ofName job.source.tlsMode = .ok mode
  target : job.target.IsUsable .oracle
  targetSchema : isAllBlank job.target.schema = true ↔
    ∃ name, given.value? "target-schema" = some name ∧ isAllBlank name = true
  copying : job.settings.IsSound

/-- Settings that are sound with the options over them make a checked job. -/
theorem isChecked_jobWith {settings : Settings} {target : Connection} {given : Given}
    {timing : Run.Timing} (named : settings.target = some target)
    (sound : (overridden settings given).IsSound) :
    IsChecked given (jobWith settings target given timing) := by
  obtain ⟨usable, schema⟩ := sound.target target named
  refine ⟨sound.source, sound.sourceSchema, sound.tlsMode,
    ⟨usable.address, usable.user, usable.kind⟩, ?_, sound.copying⟩
  show isAllBlank ((given.value? "target-schema").getD target.schema) = true ↔ _
  cases given.value? "target-schema" with
  | none => simp [schema]
  | some name => simp

/-- **Only checked settings are started with**, but for the name of the destination's schema: a copy
is started exactly if the settings of the file are sound with the options over them, and the job is
checked but for that name; otherwise no database is called. -/
theorem migrate_startsChecked (timing : Run.Timing) (options given : Given)
    (file : Except Fault (List UInt8)) :
    (∃ settings target, settingsOf file = .ok settings ∧ settings.target = some target ∧
      (overridden settings given).IsSound ∧
      IsChecked given (jobWith settings target given timing) ∧
      Starts timing ⟨options, .migrate given⟩ file (jobWith settings target given timing)) ∨
    ((∀ settings target, settingsOf file = .ok settings → settings.target = some target →
      ¬ (overridden settings given).IsSound) ∧
      ∃ fault, Refuses timing ⟨options, .migrate given⟩ file fault) := by
  cases asked : jobOf timing given file with
  | ok job =>
    obtain ⟨settings, target, read, named, sound, rfl⟩ := jobOf_eq_ok_iff.mp asked
    exact .inl ⟨settings, target, read, named, sound, isChecked_jobWith named sound,
      starts_of_jobOf asked⟩
  | error fault =>
    refine .inr ⟨?_, fault, ?_⟩
    · intro settings target read named sound
      have asks : jobOf timing given file = .ok (jobWith settings target given timing) :=
        jobOf_eq_ok_iff.mpr ⟨settings, target, read, named, sound, rfl⟩
      cases asked.symm.trans asks
    · intro _ _ servers world
      rw [deed_migrate, asked]

/-- A file with the settings that a copy needs and no others. -/
def briefFile : List UInt8 :=
  ("source:\n  uri: postgres://a\n  username: a\n  password: a\n  schema: a\n" ++
    "target:\n  uri: //b\n  username: b\n  password: b\n  schema: b\n").toUTF8.toList

/-- A blank name of the destination's schema is started with if it is given as an option. -/
theorem migrate_starts_blankSchema :
    ∃ given job,
      Arguments.read ["migrate", "--target-schema", " "] = .ok ⟨[], .migrate given⟩ ∧
        Starts ⟨"", ⟨0, 0⟩, ⟨0, 0⟩, 0, fun _ => 0⟩ ⟨[], .migrate given⟩ (.ok briefFile) job ∧
        isAllBlank job.target.schema = true := by
  have blank : (jobOf ⟨"", ⟨0, 0⟩, ⟨0, 0⟩, 0, fun _ => 0⟩ [("target-schema", " ")]
      (.ok briefFile)).toOption.map (fun job => isAllBlank job.target.schema) = some true := by
    decide +kernel
  cases asked : jobOf ⟨"", ⟨0, 0⟩, ⟨0, 0⟩, 0, fun _ => 0⟩ [("target-schema", " ")]
      (.ok briefFile) with
  | error fault =>
    rw [asked] at blank
    cases blank
  | ok job =>
    rw [asked] at blank
    exact ⟨[("target-schema", " ")], job, rfl, starts_of_jobOf asked, Option.some.inj blank⟩

end SchemaFerry.CommandLine
