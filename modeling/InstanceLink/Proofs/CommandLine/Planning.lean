import InstanceLink.CommandLine.Run
import InstanceLink.Proofs.Fetch.Accepting
import InstanceLink.Proofs.Fetch.Delivery

/-!
# What comes before a fetch

A run is planned once its settings, the configuration they make and the consoles are known.
Without a plan it ends early: it has then asked nothing of the outside. A planned run asks for
one executor first.
-/

namespace InstanceLink.CommandLine

variable {arguments : List String} {env : Environment} {version? : Option String}
  {outside : Outside} {around : Surroundings} {p : Plan}

/-- A plan is made of settings that were read, the configuration they make, the consoles, and the
logger as it was set up for them. -/
theorem plan_eq_ok_iff :
    plan arguments env version? around = .ok p ↔ readArguments arguments = .ok p.settings ∧
      p.settings.configure env = .ok p.config ∧
      screens env around.streams around.paint = .ok p.screens ∧
      around.sinkAt p.settings.level = p.sink := by
  obtain ⟨s, config, consoles, sink⟩ := p
  unfold plan
  cases readArguments arguments with
  | error stop => cases stop <;> simp only [reduceCtorEq, false_and]
  | ok s' =>
    dsimp only
    cases hconfig : s'.configure env with
    | error message =>
      simp only [reduceCtorEq, Except.ok.injEq, false_iff]
      rintro ⟨rfl, hother, -⟩
      cases hconfig.symm.trans hother
    | ok config' =>
      cases hscreens : screens env around.streams around.paint with
      | error fault => simp only [reduceCtorEq, false_and, and_false]
      | ok consoles' =>
        simp only [Except.ok.injEq, Plan.mk.injEq]
        constructor
        · rintro ⟨rfl, rfl, rfl, rfl⟩
          exact ⟨rfl, hconfig, rfl, rfl⟩
        · rintro ⟨rfl, hother, rfl, rfl⟩
          cases hconfig.symm.trans hother
          exact ⟨rfl, rfl, rfl, rfl⟩

/-- A run that ends for want of a plan waits for nothing, has made no key, asked for no executor
and fetched nothing. -/
theorem of_plan_eq_error {early : Run} (h : plan arguments env version? around = .error early) :
    early.ending ≠ .waiting ∧ early.keysMade = 0 ∧ early.executor = [] ∧ early.pauses = [] ∧
      ∃ sink, early.session = .fresh sink := by
  have hearly : ∀ status output errors, (around.early status output errors).ending ≠ .waiting ∧
      (around.early status output errors).keysMade = 0 ∧
      (around.early status output errors).executor = [] ∧
      (around.early status output errors).pauses = [] ∧
      ∃ sink, (around.early status output errors).session = .fresh sink :=
    fun _ _ _ => ⟨nofun, rfl, rfl, rfl, _, rfl⟩
  unfold plan at h
  split at h
  · cases h
    exact hearly _ _ _
  · cases h
    exact hearly _ _ _
  · cases h
    exact hearly _ _ _
  · split at h
    · cases h
      exact hearly _ _ _
    · split at h
      · cases h
        exact ⟨nofun, rfl, rfl, rfl, _, rfl⟩
      · contradiction

/-- A run with a plan is what the plan makes of the outside. -/
theorem run_of_plan_eq_ok (h : plan arguments env outside.version? around = .ok p) :
    run arguments env outside around = p.run outside := by
  simp only [run, h]

/-- A planned run asks once for an executor, of the configuration's number of workers. -/
theorem executor_run (p : Plan) (outside : Outside) :
    ∃ rest, (p.run outside).executor = .asked p.config.maxWorkers :: rest ∧
      (rest = [] ∨ rest = [.stopped false true, .registryCleared]) := by
  unfold Plan.run
  cases outside.admin with
  | error fault => exact ⟨[], rfl, .inl rfl⟩
  | ok client =>
    dsimp only
    split
    · exact ⟨[], rfl, .inl rfl⟩
    · split
      · exact ⟨[], rfl, .inl rfl⟩
      · exact ⟨_, rfl, .inr rfl⟩

/-- A planned run asks for no other number of workers. -/
theorem eq_of_asked_run {workers : Nat} (h : .asked workers ∈ (p.run outside).executor) :
    workers = p.config.maxWorkers := by
  obtain ⟨rest, hexecutor, hrest⟩ := executor_run p outside
  rw [hexecutor] at h
  rcases hrest with rfl | rfl <;> simpa using h

/-- Arguments that name an instance and nothing else. -/
def sampleArguments : List String := ["--instance", sampleName.text]

/-- The settings that these arguments make. -/
def sampleSettings : Settings := { Settings.standard with instanceText := some sampleName.text }

/-- The configuration that these settings make over an empty environment. -/
def sampleConfig : Config := ⟨sampleName, none, false, 4, by decide⟩

/-- An outside in which both calls of a fetch are answered. -/
def answeredOutside : Outside :=
  ⟨.ok ⟨[.reply (.ok sampleMetadata)], [.reply (.ok sampleCertificates)], none⟩, sampleKey, none⟩

/-- The arguments make their settings. -/
theorem readArguments_sample : readArguments sampleArguments = .ok sampleSettings := by
  have hkinds : kinds sampleArguments =
      .ok [("--instance", .flag .instanceName false .nothing), (sampleName.text, .value)] := by
    simp [sampleArguments, kinds, endMark, kindOf, isShort, Flag.spelled, Flag.all,
      Flag.spellings]
    rfl
  simp only [readArguments, hkinds]
  rfl

/-- The consoles of streams that are no terminals, with the standard columns. -/
def plainScreens : Screens := ⟨⟨standardColumns, none⟩, ⟨standardColumns, none⟩⟩

/-- What log calls meet that are handed to a plain handler, from errors on. -/
def plainSink : LogSink := ⟨Loggers.defaultLevel, [.plain]⟩

/-- The plan that these arguments make over an empty environment. -/
def samplePlan : Plan := ⟨sampleSettings, sampleConfig, plainScreens, plainSink⟩

/-- The arguments make this plan. -/
theorem plan_sample (version? : Option String) :
    plan sampleArguments [] version? = .ok samplePlan :=
  plan_eq_ok_iff.mpr ⟨readArguments_sample, rfl, rfl, rfl⟩

end InstanceLink.CommandLine
