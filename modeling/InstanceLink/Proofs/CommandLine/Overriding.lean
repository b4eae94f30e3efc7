import InstanceLink.Proofs.CommandLine.Planning
import InstanceLink.Proofs.Config.Variables
import InstanceLink.Proofs.Number.Writing
import InstanceLink.Proofs.Result

/-!
# Settings over the environment

Arguments that name the instance and the number of workers leave nothing for the variables
of these two to say: no run depends on them, be they absent, empty or malformed. The number
of workers goes through the environment as a text and comes out of it as the same number, so
only a number below two is refused.
-/

namespace InstanceLink

namespace Environment

/-- Setting one variable leaves the others as they are. -/
theorem lookup_set_of_ne {env : Environment} {name other value : String} (h : name ≠ other) :
    (env.set other value).lookup name = env.lookup name := by
  have hother : (name == other) = false := beq_eq_false_iff_ne.mpr h
  have hrest : (env.filter fun entry => entry.1 != other).lookup name = env.lookup name := by
    induction env with
    | nil => rfl
    | cons entry rest ih =>
      obtain ⟨known, held⟩ := entry
      by_cases hknown : known = other
      · subst hknown
        rw [List.filter_cons_of_neg (by simp), ih, List.lookup_cons, hother]
      · rw [List.filter_cons_of_pos (by simpa using hknown), List.lookup_cons, List.lookup_cons,
          ih]
  rw [set, List.lookup_cons, hother]
  exact hrest

/-- Two environments hold the same values in all variables but some. -/
def AgreeBeyond (names : List String) (env env' : Environment) : Prop :=
  ∀ name, name ∉ names → env.lookup name = env'.lookup name

end Environment

namespace Config

/-- The text of a number gives that many workers. -/
theorem workersOf_toString {s : String} {n : Int} (h : Number.readInt? s = some n)
    {count : Workers} : workersOf (some (toString n)) = .ok count ↔ (count.val : Int) = n := by
  have hint : FieldRule.int (.text (toString n)) = .ok n :=
    WholeNumber.read_toString_of_readInt? h
  rw [workersOf, Option.elim_some, workersRule_eq_ok_iff, hint, Except.ok.injEq, eq_comm]

end Config

namespace CommandLine

/-- The number of workers among the settings, if any, was read from a text. -/
def Settings.IsRead (s : Settings) : Prop :=
  ∀ n, s.maxWorkers = some n → ∃ text, Number.readInt? text = some n

namespace Settings

variable {s s' : Settings}

/-- A flag without a value changes no number. -/
theorem IsRead.turnOn (hs : s.IsRead) {f : Flag} (h : s.turnOn f = .ok s') : s'.IsRead := by
  cases f <;> cases h <;> exact hs

/-- A flag with its value leaves the number as it was or reads it. -/
theorem IsRead.give (hs : s.IsRead) {f : Flag} {value : String} (h : s.give f value = .ok s') :
    s'.IsRead := by
  unfold Settings.give at h
  split at h
  · cases h
    exact hs
  · split at h
    · cases h
      exact hs
    · contradiction
  · split at h
    · rename_i n hread
      cases h
      rintro m ⟨⟩
      exact ⟨value, hread⟩
    · contradiction
  · contradiction

/-- Flags without values change no number. -/
theorem IsRead.turnOnAll (hs : s.IsRead) {row : List Flag}
    (h : row.foldlM Settings.turnOn s = .ok s') : s'.IsRead := by
  induction row generalizing s with
  | nil =>
    cases h
    exact hs
  | cons f rest ih =>
    rw [List.foldlM_cons, bind_eq_ok_iff] at h
    obtain ⟨after, hafter, hrest⟩ := h
    exact ih (hs.turnOn hafter) hrest

/-- A flag with something attached leaves the number as it was or reads it. -/
theorem IsRead.attach (hs : s.IsRead) {f : Flag} {short isAssigned : Bool} {text : List Char}
    {left : List String} (h : s.attach f short isAssigned text = .ok (s', left)) : s'.IsRead := by
  unfold Settings.attach at h
  split at h
  · obtain ⟨after, hafter, hpair⟩ := map_eq_ok_iff.mp h
    cases hpair
    exact hs.give hafter
  · split at h
    · split at h
      · contradiction
      · obtain ⟨after, hafter, hpair⟩ := map_eq_ok_iff.mp h
        cases hpair
        exact hs.turnOnAll hafter
    · contradiction

end Settings

/-- Arguments leave the number as it was or read it. -/
theorem isRead_of_readFrom {s s' : Settings} {left left' : List String}
    {sorted : List (String × ArgumentKind)} (hs : s.IsRead)
    (h : readFrom s left sorted = .ok (s', left')) : s'.IsRead := by
  fun_induction readFrom s left sorted with
  | case1 =>
    cases h
    exact hs
  | case2 s left given f short text rest ih | case3 s left given f short text rest ih =>
    obtain ⟨⟨after, more⟩, hafter, hrest⟩ := bind_eq_ok_iff.mp h
    exact ih after more (hs.attach hafter) hrest
  | case4 => contradiction
  | case5 s left given f short hvalue =>
    obtain ⟨after, hafter, hpair⟩ := bind_eq_ok_iff.mp h
    cases hpair
    exact hs.turnOn hafter
  | case6 s left given f short value rest hvalue ih =>
    obtain ⟨after, hafter, hrest⟩ := bind_eq_ok_iff.mp h
    exact ih after (hs.give hafter) hrest
  | case7 => contradiction
  | case8 s left given f short value kind rest hvalue ih =>
    obtain ⟨after, hafter, hrest⟩ := bind_eq_ok_iff.mp h
    exact ih after (hs.turnOn hafter) hrest
  | case9 s left given kind rest _ _ _ _ ih => exact ih hs h

/-- The number of workers that arguments give was read from a text. -/
theorem isRead_of_readArguments {arguments : List String} {s : Settings}
    (h : readArguments arguments = .ok s) : s.IsRead := by
  unfold readArguments at h
  split at h
  · contradiction
  · obtain ⟨⟨after, left⟩, hafter, hend⟩ := bind_eq_ok_iff.mp h
    have hstandard : Settings.standard.IsRead := by
      rintro n ⟨⟩
    dsimp only at hend
    split at hend
    · cases hend
      exact isRead_of_readFrom hstandard hafter
    · contradiction

/-- The variables that settings may override. -/
def overriddenVariables : List String := [Environment.instanceVariable, Environment.workersVariable]

/-- The settings name an instance and a number of workers, which override the environment. -/
structure Settings.Overrides (s : Settings) (name : String) (workers : Int) : Prop where
  instanceText : s.instanceText = some name
  named : name ≠ ""
  maxWorkers : s.maxWorkers = some workers

namespace Settings.Overrides

variable {s : Settings} {name : String} {workers : Int} {env env' : Environment}

/-- Both variables are set. -/
theorem over_eq (h : s.Overrides name workers) (env : Environment) :
    s.over env = (env.set Environment.instanceVariable name).set Environment.workersVariable
      (toString workers) := by
  have hempty : name.isEmpty = false := Bool.eq_false_iff.mpr (mt String.isEmpty_iff.mp h.named)
  simp only [Settings.over, h.instanceText, h.maxWorkers, hempty, Bool.false_eq_true, if_false]

/-- The variable of the instance holds the given one. -/
theorem lookup_instance (h : s.Overrides name workers) (env : Environment) :
    (s.over env).lookup Environment.instanceVariable = some name := by
  rw [h.over_eq, Environment.lookup_set_of_ne (by decide), Environment.lookup_set]

/-- The variable of the workers holds the given number as a text. -/
theorem lookup_workers (h : s.Overrides name workers) (env : Environment) :
    (s.over env).lookup Environment.workersVariable = some (toString workers) := by
  rw [h.over_eq, Environment.lookup_set]

/-- Every other variable is as it was. -/
theorem lookup_other (h : s.Overrides name workers) {other : String}
    (hother : other ∉ overriddenVariables) :
    (s.over env).lookup other = env.lookup other := by
  simp only [overriddenVariables, List.mem_cons, List.not_mem_nil, or_false, not_or] at hother
  rw [h.over_eq, Environment.lookup_set_of_ne hother.2, Environment.lookup_set_of_ne hother.1]

/-- The configuration does not depend on what is overridden. -/
theorem configure_congr (h : s.Overrides name workers)
    (hsame : env.AgreeBeyond overriddenVariables env') : s.configure env = s.configure env' := by
  have hlookup : ∀ {other}, other ∉ overriddenVariables →
      (s.over env).lookup other = (s.over env').lookup other := by
    intro other hother
    rw [h.lookup_other hother, h.lookup_other hother, hsame other hother]
  have hinstance := (h.lookup_instance env).trans (h.lookup_instance env').symm
  have hworkers := (h.lookup_workers env).trans (h.lookup_workers env').symm
  have hconfig : Config.ofEnvironment (s.over env) = Config.ofEnvironment (s.over env') :=
    Config.ofEnvironment_congr hinstance (hlookup (by decide)) (hlookup (by decide)) hworkers
  simp only [configure, Environment.nonEmpty?, hinstance, hconfig]

/-- The settings make a configuration exactly when the instance they name can be read, the flag
of the environment is a word, and the number of workers they give is that of the
configuration. -/
theorem configure_eq_ok_iff (h : s.Overrides name workers) (hread : s.IsRead) {c : Config} :
    s.configure env = .ok c ↔
      InstanceName.read name = .ok c.instanceName ∧
      c.iamUser = env.nonEmpty? Environment.userVariable ∧
      Environment.readFlag ((env.lookup Environment.authVariable).getD "") =
        .ok c.enableIamAuth ∧
      (c.maxWorkers : Int) = workers := by
  obtain ⟨text, htext⟩ := hread workers h.maxWorkers
  have hinstance := Environment.nonEmpty?_of_lookup (h.lookup_instance env) h.named
  have hwritten : toString workers ≠ "" := by
    intro hempty
    have hreread := WholeNumber.read_toString_of_readInt? htext
    rw [hempty] at hreread
    contradiction
  have hworkers := Environment.nonEmpty?_of_lookup (h.lookup_workers env) hwritten
  have huser : (s.over env).nonEmpty? Environment.userVariable =
      env.nonEmpty? Environment.userVariable := by
    rw [Environment.nonEmpty?, h.lookup_other (by decide), Environment.nonEmpty?]
  have hconfigure : s.configure env =
      (Config.ofEnvironment (s.over env)).mapError ConfigRefusal.message := by
    simp only [configure, hinstance]
  rw [hconfigure, mapError_eq_ok_iff, Config.ofEnvironment_eq_ok_iff, hinstance, huser, hworkers,
    h.lookup_other (by decide), Config.workersOf_toString htext]
  simp only [Option.some.injEq, exists_eq_left']

end Settings.Overrides

/-- The variables that consoles and the wording of usage depend on. -/
def screenVariables : List String :=
  [columnsVariable, linesVariable, colourVariable, kindVariable]

/-- The consoles are the same when their variables are. -/
theorem screens_congr {env env' : Environment}
    (h : ∀ name ∈ screenVariables, env.lookup name = env'.lookup name) (streams : Streams)
    (paint : String → String) : screens env streams paint = screens env' streams paint := by
  simp only [screenVariables, List.forall_mem_cons] at h
  obtain ⟨hcolumns, hlines, hcolour, hkind, -⟩ := h
  have hdumb : isDumb env = isDumb env' := by rw [isDumb, isDumb, hkind]
  have hscreen : screenOf env streams paint = screenOf env' streams paint := by
    funext columns lines stream
    rw [screenOf, screenOf, hcolour, hdumb]
  have hsize : ∀ {name}, env.lookup name = env'.lookup name →
      screenSize env name = screenSize env' name := fun hname => by
    rw [screenSize, screenSize, hname]
  rw [screens, screens, hsize hcolumns, hsize hlines, hscreen]

/-- The wording of refused arguments is the same when the columns are. -/
theorem usageColumns_congr {env env' : Environment}
    (hcolumns : env.lookup columnsVariable = env'.lookup columnsVariable) (streams : Streams) :
    usageColumns env streams = usageColumns env' streams := by
  simp only [usageColumns, hcolumns]

/-- Arguments whose settings override both variables make the same plan, or the same run that
ends early, whatever the variables hold. -/
theorem plan_congr {arguments : List String} {env env' : Environment} (version? : Option String)
    (around : Surroundings) (hsame : env.AgreeBeyond overriddenVariables env')
    (hgiven : ∀ s, readArguments arguments = .ok s → ∃ name workers, s.Overrides name workers) :
    plan arguments env version? around = plan arguments env' version? around := by
  have hscreen : ∀ name ∈ screenVariables, name ∉ overriddenVariables := by decide
  have hscreens := screens_congr fun name hname => hsame name (hscreen name hname)
  have hcolumns := usageColumns_congr (hsame columnsVariable (by decide))
  simp only [plan, hcolumns, hscreens]
  cases hread : readArguments arguments with
  | error stop => cases stop <;> rfl
  | ok s =>
    obtain ⟨name, workers, hover⟩ := hgiven s hread
    simp only [hover.configure_congr hsame]

/-- Arguments that name an instance and a number of workers override the environment. The two
variables may hold anything or nothing: the whole run is the same, with its status, its output
and errors, its pauses, and every request. The settings are accepted exactly when the instance
and the flag of the environment can be read and the number is not below two, however large it
is; and an accepted run asks for one executor, with as many workers as were given. -/
theorem overriding_laws {arguments : List String} {env env' : Environment} {outside : Outside}
    {around : Surroundings} (hsame : env.AgreeBeyond overriddenVariables env')
    (hgiven : ∀ s, readArguments arguments = .ok s → ∃ name workers, s.Overrides name workers) :
    run arguments env outside around = run arguments env' outside around ∧
    ∀ s name workers, readArguments arguments = .ok s → s.Overrides name workers →
      ((∃ config, s.configure env = .ok config) ↔
        (∃ instanceName, InstanceName.read name = .ok instanceName) ∧
        (∃ auth, Environment.readFlag ((env.lookup Environment.authVariable).getD "") = .ok auth) ∧
        2 ≤ workers) ∧
      ∀ p, plan arguments env outside.version? around = .ok p → p.settings = s ∧
        ∃ count : Nat, (count : Int) = workers ∧
          (run arguments env outside around).executor.head? = some (.asked count) ∧
          ∀ other, .asked other ∈ (run arguments env outside around).executor → other = count := by
  refine ⟨?_, fun s name workers hread hover => ⟨?_, fun p hplan => ?_⟩⟩
  · simp only [run, plan_congr outside.version? around hsame hgiven]
  · simp only [hover.configure_eq_ok_iff (isRead_of_readArguments hread)]
    constructor
    · rintro ⟨config, hname, -, hauth, hcount⟩
      have htwo := config.two_le_maxWorkers
      exact ⟨⟨_, hname⟩, ⟨_, hauth⟩, by omega⟩
    · rintro ⟨⟨instanceName, hname⟩, ⟨auth, hauth⟩, htwo⟩
      exact ⟨⟨instanceName, _, auth, workers.toNat, by omega⟩, hname, rfl, hauth,
        Int.toNat_of_nonneg (by omega)⟩
  · obtain ⟨hread', hconfigure, -⟩ := plan_eq_ok_iff.mp hplan
    cases hread.symm.trans hread'
    obtain ⟨-, -, -, hcount⟩ :=
      (hover.configure_eq_ok_iff (isRead_of_readArguments hread)).mp hconfigure
    obtain ⟨rest, hexecutor, -⟩ := executor_run p outside
    rw [run_of_plan_eq_ok hplan]
    exact ⟨rfl, p.config.maxWorkers, hcount, by rw [hexecutor, List.head?_cons],
      fun _ hother => eq_of_asked_run hother⟩

/-- Arguments that name an instance and a number of workers. -/
def crowdedArguments : List String := ["--instance", sampleName.text, "--max-workers", "0_016"]

/-- The settings that these arguments make. -/
def crowdedSettings : Settings := { sampleSettings with maxWorkers := some 16 }

/-- An environment that holds no instance and no number. -/
def malformedEnvironment : Environment :=
  [(Environment.instanceVariable, "nowhere"), (Environment.workersVariable, "many")]

/-- The arguments make their settings. -/
theorem readArguments_crowded : readArguments crowdedArguments = .ok crowdedSettings := by
  have hkinds : kinds crowdedArguments =
      .ok [("--instance", .flag .instanceName false .nothing), (sampleName.text, .value),
        ("--max-workers", .flag .maxWorkers false .nothing), ("0_016", .value)] := by
    simp [crowdedArguments, kinds, endMark, kindOf, isShort, Flag.spelled, Flag.all,
      Flag.spellings]
    rfl
  simp only [readArguments, hkinds]
  rfl

/-- Malformed variables under such arguments have no effect: the run is the one without them, and
its executor has the sixteen workers that were given. -/
theorem overriding_laws_malformed :
    run crowdedArguments malformedEnvironment answeredOutside =
      run crowdedArguments [] answeredOutside ∧
    (run crowdedArguments malformedEnvironment answeredOutside).executor.head? =
      some (.asked 16) := by
  have hover : crowdedSettings.Overrides sampleName.text 16 := ⟨rfl, by decide, rfl⟩
  have hgiven : ∀ s, readArguments crowdedArguments = .ok s →
      ∃ name workers, s.Overrides name workers := by
    intro s hread
    cases readArguments_crowded.symm.trans hread
    exact ⟨_, _, hover⟩
  have hsame : malformedEnvironment.AgreeBeyond overriddenVariables [] := by
    intro name hname
    simp only [overriddenVariables, List.mem_cons, List.not_mem_nil, or_false, not_or] at hname
    rw [malformedEnvironment, List.lookup_cons, List.lookup_cons,
      beq_eq_false_iff_ne.mpr hname.1, beq_eq_false_iff_ne.mpr hname.2]
  obtain ⟨hrun, hlaws⟩ := @overriding_laws _ _ _ answeredOutside {} hsame hgiven
  obtain ⟨haccepted, hasked⟩ := hlaws _ _ _ readArguments_crowded hover
  obtain ⟨config, hconfig⟩ := haccepted.mpr ⟨⟨sampleName, rfl⟩, ⟨false, rfl⟩, by decide⟩
  obtain ⟨-, count, hcount, hhead, -⟩ := hasked ⟨crowdedSettings, config, plainScreens, plainSink⟩
    (plan_eq_ok_iff.mpr ⟨readArguments_crowded, hconfig, rfl, rfl⟩)
  have hsixteen : count = 16 := by omega
  rw [hsixteen] at hhead
  exact ⟨hrun, hhead⟩

end CommandLine

end InstanceLink
