import InstanceLink.Proofs.Config.Properties
import InstanceLink.Proofs.Result

/-!
# What the variables of an environment give

Which environments make a configuration, which one it is, and how the others are refused. Four
variables decide: each has its own condition, a refusal names the first kind that is broken, and
no other variable counts.
-/

namespace InstanceLink

namespace Environment

/-- A variable that is set and not empty has its value. -/
theorem nonEmpty?_of_lookup {env : Environment} {name value : String}
    (h : env.lookup name = some value) (hvalue : value ≠ "") :
    env.nonEmpty? name = some value := by
  have hempty : value.isEmpty = false := Bool.eq_false_iff.mpr (mt String.isEmpty_iff.mp hvalue)
  simp only [nonEmpty?, h, Option.filter_some, hempty, Bool.not_false, if_true]

/-- A variable has a value exactly when it is set and not empty. -/
theorem nonEmpty?_eq_some_iff {env : Environment} {name value : String} :
    env.nonEmpty? name = some value ↔ env.lookup name = some value ∧ value ≠ "" := by
  rw [nonEmpty?, Option.filter_eq_some_iff, Bool.not_eq_true', ← Bool.not_eq_true,
    String.isEmpty_iff]

/-- A variable has no value exactly when it is absent or empty. -/
theorem nonEmpty?_eq_none_iff {env : Environment} {name : String} :
    env.nonEmpty? name = none ↔ env.lookup name = none ∨ env.lookup name = some "" := by
  rw [nonEmpty?]
  cases env.lookup name with
  | none => simp
  | some value => simp [Option.filter_some]

/-- A flag as it is looked up among the words: without the blanks around it, in lower case. -/
def flagWord (s : String) : String := String.ofList ((Text.strip s).toList.map Char.toLower)

/-- No word stands for both truth values. -/
theorem not_mem_falseWords_of_mem_trueWords : ∀ word ∈ trueWords, word ∉ falseWords := by decide

/-- A flag has a truth value exactly when its word is one of those for it. -/
theorem readFlag_eq_ok_iff {s : String} {auth : Bool} :
    readFlag s = .ok auth ↔
      if auth then flagWord s ∈ trueWords else flagWord s ∈ falseWords := by
  have hread : readFlag s =
      if trueWords.contains (flagWord s) then .ok true
      else if falseWords.contains (flagWord s) then .ok false else .error (.flag s) := rfl
  rw [hread]
  simp only [List.contains_iff_mem]
  split
  next htrue =>
    have hfalse := not_mem_falseWords_of_mem_trueWords _ htrue
    cases auth <;> simp [htrue, hfalse]
  next htrue =>
    split
    next hfalse => cases auth <;> simp [htrue, hfalse]
    next hfalse => cases auth <;> simp [htrue, hfalse]

/-- Only a flag whose word is not listed is refused. -/
theorem readFlag_eq_error_iff {s : String} {refusal : ConfigRefusal} :
    readFlag s = .error refusal ↔ flagWord s ∉ trueWords ++ falseWords ∧ refusal = .flag s := by
  have hread : readFlag s =
      if trueWords.contains (flagWord s) then .ok true
      else if falseWords.contains (flagWord s) then .ok false else .error (.flag s) := rfl
  rw [hread]
  simp only [List.contains_iff_mem, List.mem_append, not_or]
  split
  next htrue => simp [htrue]
  next htrue =>
    split
    next hfalse => simp [hfalse]
    next hfalse => simp [htrue, hfalse, eq_comm]

/-- A flag that is absent counts as the empty word, which is one for false. -/
theorem readFlag_absent : readFlag "" = .ok false := rfl

end Environment

namespace FieldRule

/-- A number with a bound is a number that is not below it. -/
theorem intAtLeast_eq_ok_iff {least i : Int} {value : FieldValue} :
    intAtLeast least value = .ok i ↔ int value = .ok i ∧ least ≤ i := by
  rw [intAtLeast, bind_eq_ok_iff]
  constructor
  · rintro ⟨j, hint, hleast⟩
    split at hleast
    · contradiction
    · cases hleast
      exact ⟨hint, by omega⟩
  · rintro ⟨hint, hleast⟩
    exact ⟨i, hint, if_neg (by omega)⟩

end FieldRule

namespace Checked

variable {α β : Type} {p : FieldError → Prop}

/-- A check that fails reports at least one error, and all it reports are of one kind. -/
def Reports (p : FieldError → Prop) (a : Checked α) : Prop :=
  ∀ errors, a = .error errors → errors ≠ [] ∧ ∀ e ∈ errors, p e

/-- A check that succeeds reports nothing. -/
theorem reports_ok {x : α} : Reports p (.ok x : Checked α) := by
  rintro errors ⟨⟩

/-- A named field reports the one error of its rule, at its name. -/
theorem reports_named {fields : Fields} {name : String} {absent : Except FieldFault α}
    {rule : FieldValue → Except FieldFault α} (h : ∀ fault value, p ⟨[.field name], fault, value⟩) :
    Reports p (named fields name absent rule) := by
  have hlocated : ∀ (outcome : Except FieldFault α) (value : FieldValue),
      Reports p (outcome.mapError fun fault => [⟨[.field name], fault, value⟩]) := by
    intro outcome value errors herrors
    cases outcome with
    | ok x => contradiction
    | error fault =>
      cases herrors
      refine ⟨List.cons_ne_nil _ _, fun e he => ?_⟩
      rw [List.mem_singleton.mp he]
      exact h fault value
  unfold named
  split <;> exact hlocated _ _

/-- Two checks together report what either does. -/
theorem Reports.both {a : Checked α} {b : Checked β} (ha : Reports p a) (hb : Reports p b) :
    Reports p (both a b) := by
  intro errors herrors
  cases a with
  | ok x =>
    cases b with
    | ok y => contradiction
    | error faults =>
      cases herrors
      exact hb faults rfl
  | error faults =>
    obtain ⟨hne, hmem⟩ := ha faults rfl
    cases b with
    | ok y =>
      cases herrors
      rw [Checked.errors, Checked.errors, List.append_nil]
      exact ⟨hne, hmem⟩
    | error others =>
      obtain ⟨-, hothers⟩ := hb others rfl
      cases herrors
      refine ⟨fun hnil => hne (List.append_eq_nil_iff.mp hnil).1, fun e he => ?_⟩
      exact (List.mem_append.mp he).elim (hmem e) (hothers e)

/-- What is made of a checked value changes no report. -/
theorem Reports.map {a : Checked α} (ha : Reports p a) (change : α → β) :
    Reports p (a.map change) := by
  intro errors herrors
  cases a with
  | ok x => contradiction
  | error faults => exact ha errors (congrArg Except.error (Except.error.inj herrors))

end Checked

/-- Loose fields that make no name report errors. -/
theorem InstanceName.reports_ofFields (fields : Fields) :
    Checked.Reports (fun _ => True) (ofFields fields) := by
  have hfield : ∀ name, Checked.Reports (fun _ => True)
      (Checked.named fields name (.error .missing) segment) :=
    fun _ => Checked.reports_named fun _ _ => trivial
  exact (((hfield _).both (hfield _)).both ((hfield _).both (hfield _))).map _

/-- A text whose parts are no segments is refused with errors. -/
theorem InstanceName.ne_nil_of_read {s : String} {errors : List FieldError}
    (h : read s = .error (.segments errors)) : errors ≠ [] := by
  unfold read at h
  split at h
  · cases h
  · rename_i parts _
    cases hfields : ofFields [("project", .text parts.project), ("location", .text parts.location),
        ("cluster", .text parts.cluster), ("instance", .text parts.leaf)] with
    | ok name =>
      rw [hfields] at h
      contradiction
    | error faults =>
      rw [hfields] at h
      cases h
      exact (reports_ofFields _ _ hfields).1

namespace Config

/-- A number of workers is a number that fits. -/
theorem workersRule_eq_ok_iff {value : FieldValue} {count : Workers} :
    workersRule value = .ok count ↔ FieldRule.int value = .ok (count.val : Int) := by
  obtain ⟨workers, hworkers⟩ := count
  rw [workersRule, bind_eq_ok_iff]
  simp only [FieldRule.intAtLeast_eq_ok_iff, leastWorkers]
  constructor
  · rintro ⟨i, ⟨hint, hleast⟩, hcount⟩
    rw [dif_pos (by omega), Except.ok.injEq, Subtype.mk.injEq] at hcount
    rw [hint, Except.ok.injEq]
    omega
  · intro hint
    refine ⟨workers, ⟨hint, by omega⟩, ?_⟩
    rw [dif_pos (by omega)]
    rfl

/-- The variables that a configuration is made of. -/
def variableNames : List String :=
  [Environment.instanceVariable, Environment.userVariable, Environment.authVariable,
    Environment.workersVariable]

/-- Environments that agree in four variables give the same configuration or the same refusal. -/
theorem ofEnvironment_congr {env env' : Environment}
    (hinstance : env.lookup Environment.instanceVariable =
      env'.lookup Environment.instanceVariable)
    (huser : env.lookup Environment.userVariable = env'.lookup Environment.userVariable)
    (hauth : env.lookup Environment.authVariable = env'.lookup Environment.authVariable)
    (hworkers : env.lookup Environment.workersVariable =
      env'.lookup Environment.workersVariable) :
    ofEnvironment env = ofEnvironment env' := by
  simp only [ofEnvironment, Environment.nonEmpty?, hinstance, huser, hauth, hworkers]

/-- An error is in the name of the instance or in the number of workers. -/
def ConcernsVariable (e : FieldError) : Prop :=
  ∃ rest, e.place = .field "instance_name" :: rest ∨ e.place = .field "max_workers" :: rest

/-- The field of the name reports errors in the name, whatever it holds. -/
theorem reports_instanceField (fields : Fields) :
    Checked.Reports ConcernsVariable (instanceField fields) := by
  have halone : ∀ (fault : FieldFault) (value : FieldValue), Checked.Reports ConcernsVariable
      (.error [⟨[.field "instance_name"], fault, value⟩] : Checked InstanceName) := by
    rintro fault value _ ⟨⟩
    refine ⟨List.cons_ne_nil _ _, fun e he => ?_⟩
    rw [List.mem_singleton.mp he]
    exact ⟨[], .inl rfl⟩
  have hwithin : ∀ errors : List FieldError, errors ≠ [] → Checked.Reports ConcernsVariable
      (.error (errors.map (FieldError.within (.field "instance_name"))) :
        Checked InstanceName) := by
    rintro errors hne _ ⟨⟩
    refine ⟨mt List.map_eq_nil_iff.mp hne, fun e he => ?_⟩
    obtain ⟨inner, -, rfl⟩ := List.mem_map.mp he
    exact ⟨inner.place, .inl rfl⟩
  unfold instanceField
  dsimp only
  split
  · exact halone _ _
  · exact Checked.reports_ok
  · rename_i entries _
    cases hentries : InstanceName.ofFields entries with
    | ok name => exact Checked.reports_ok
    | error errors => exact hwithin errors (InstanceName.reports_ofFields _ _ hentries).1
  · split
    · exact Checked.reports_ok
    · rename_i errors hread
      exact hwithin errors (InstanceName.ne_nil_of_read hread)
    · exact halone _ _
  · exact halone _ _

/-- The fields of an environment report errors in the name and the number only. -/
theorem reports_environmentFields (name : String) (user : Option String) (auth : Bool)
    (workers : Option String) :
    Checked.Reports ConcernsVariable (ofFields (environmentFields name user auth workers)) := by
  have huser : Checked.named (environmentFields name user auth workers) "iam_user" (.ok none)
      userRule = .ok user := by
    cases user <;> rfl
  have hauth : Checked.named (environmentFields name user auth workers) "enable_iam_auth"
      (.ok false) FieldRule.bool = .ok auth := rfl
  have hworkers : Checked.Reports ConcernsVariable
      (Checked.named (environmentFields name user auth workers) "max_workers"
        (.ok ⟨defaultWorkers, two_le_defaultWorkers⟩) workersRule) :=
    Checked.reports_named fun _ _ => ⟨[], .inr rfl⟩
  rw [ofFields, huser, hauth]
  exact (((reports_instanceField _).both Checked.reports_ok).both
    (Checked.reports_ok.both hworkers)).map _

end Config

namespace Environment

/-- The environments that make a configuration: the instance is named and its name can be read,
the flag is absent or one of the words, and the number of workers is absent, empty or a number
that is large enough. -/
structure IsSound (env : Environment) : Prop where
  instanceName : ∃ name, env.lookup instanceVariable = some name ∧ name ≠ "" ∧
    ∃ n, InstanceName.read name = .ok n
  enableIamAuth : ∀ s, env.lookup authVariable = some s → flagWord s ∈ trueWords ++ falseWords
  maxWorkers : ∀ s, env.lookup workersVariable = some s → s ≠ "" →
    ∃ n, FieldRule.int (.text s) = .ok n ∧ 2 ≤ n

/-- The configuration that an environment makes: the parsed name, the user if there is one, the
flag for true exactly for a true word, and the number that was read. -/
structure Gives (env : Environment) (c : Config) : Prop where
  instanceName : ∃ name, env.lookup instanceVariable = some name ∧ name ≠ "" ∧
    InstanceName.read name = .ok c.instanceName
  iamUser : ∀ user, c.iamUser = some user ↔ env.lookup userVariable = some user ∧ user ≠ ""
  enableIamAuth : c.enableIamAuth = true ↔
    ∃ s, env.lookup authVariable = some s ∧ flagWord s ∈ trueWords
  maxWorkers : ∀ s, env.lookup workersVariable = some s → s ≠ "" →
    FieldRule.int (.text s) = .ok (c.maxWorkers : Int)
  defaultWorkers : env.lookup workersVariable = none ∨ env.lookup workersVariable = some "" →
    c.maxWorkers = 4

/-- How an environment is refused. Every refusal is that of a value: no instance is named, or
else the flag is no word, or else a report of what is wrong with the name or the number. -/
inductive Refuses (env : Environment) : ConfigRefusal → Prop where
  | noInstance (h : env.lookup instanceVariable = none ∨ env.lookup instanceVariable = some "") :
    Refuses env .noInstance
  | flag (name s : String) (hname : env.lookup instanceVariable = some name ∧ name ≠ "")
    (hflag : env.lookup authVariable = some s) (hword : flagWord s ∉ trueWords ++ falseWords) :
    Refuses env (.flag s)
  | fields (name : String) (errors : List FieldError)
    (hname : env.lookup instanceVariable = some name ∧ name ≠ "")
    (hflag : ∀ s, env.lookup authVariable = some s → flagWord s ∈ trueWords ++ falseWords)
    (hsome : errors ≠ []) (hplace : ∀ e ∈ errors, Config.ConcernsVariable e) :
    Refuses env (.fields ⟨Config.title, errors⟩)

variable {env : Environment}

/-- The flag of an environment has a truth value exactly when it is absent or one of the words. -/
theorem exists_readFlag_iff :
    (∃ auth, readFlag ((env.lookup authVariable).getD "") = .ok auth) ↔
      ∀ s, env.lookup authVariable = some s → flagWord s ∈ trueWords ++ falseWords := by
  cases hlookup : env.lookup authVariable with
  | none =>
    rw [Option.getD_none, readFlag_absent]
    simp
  | some s =>
    simp only [Option.getD_some, Option.some.injEq, forall_eq', readFlag_eq_ok_iff,
      Bool.exists_bool, List.mem_append, Bool.false_eq_true, if_false, if_true, or_comm]

/-- A flag is refused for what it is, so it is there. -/
theorem exists_flag_of_readFlag_error {cause : ConfigRefusal}
    (h : readFlag ((env.lookup authVariable).getD "") = .error cause) :
    ∃ s, env.lookup authVariable = some s ∧ flagWord s ∉ trueWords ++ falseWords ∧
      cause = .flag s := by
  cases hflag : env.lookup authVariable with
  | none =>
    rw [hflag, Option.getD_none, readFlag_absent] at h
    contradiction
  | some s =>
    rw [hflag, Option.getD_some, readFlag_eq_error_iff] at h
    exact ⟨s, rfl, h⟩

/-- The number of workers of an environment is one exactly when it is absent, empty or a number
that is large enough. -/
theorem exists_workersOf_iff :
    (∃ count, Config.workersOf (env.nonEmpty? workersVariable) = .ok count) ↔
      ∀ s, env.lookup workersVariable = some s → s ≠ "" →
        ∃ n, FieldRule.int (.text s) = .ok n ∧ 2 ≤ n := by
  cases hgiven : env.nonEmpty? workersVariable with
  | none =>
    refine ⟨fun _ s hs hne => ?_, fun _ => ⟨_, rfl⟩⟩
    rw [nonEmpty?_of_lookup hs hne] at hgiven
    contradiction
  | some s =>
    obtain ⟨hs, hne⟩ := nonEmpty?_eq_some_iff.mp hgiven
    simp only [Config.workersOf, Option.elim_some, Config.workersRule_eq_ok_iff, hs,
      Option.some.injEq, forall_eq']
    constructor
    · rintro ⟨⟨n, htwo⟩, hint⟩ -
      exact ⟨n, hint, by omega⟩
    · intro h
      obtain ⟨n, hint, htwo⟩ := h hne
      refine ⟨⟨n.toNat, by omega⟩, ?_⟩
      rw [hint, Int.toNat_of_nonneg (by omega)]

/-- A configuration is made exactly of a sound environment. -/
theorem exists_ofEnvironment_iff :
    (∃ c, Config.ofEnvironment env = .ok c) ↔ env.IsSound := by
  simp only [Config.ofEnvironment_eq_ok_iff, nonEmpty?_eq_some_iff]
  constructor
  · rintro ⟨c, name, ⟨hname, hne⟩, hread, -, hauth, hworkers⟩
    exact ⟨⟨name, hname, hne, _, hread⟩, exists_readFlag_iff.mp ⟨_, hauth⟩,
      exists_workersOf_iff.mp ⟨_, hworkers⟩⟩
  · rintro ⟨⟨name, hname, hne, n, hread⟩, hflag, hnumber⟩
    obtain ⟨auth, hauth⟩ := exists_readFlag_iff.mpr hflag
    obtain ⟨count, hworkers⟩ := exists_workersOf_iff.mpr hnumber
    exact ⟨⟨n, env.nonEmpty? userVariable, auth, count.val, count.property⟩, name, ⟨hname, hne⟩,
      hread, rfl, hauth, hworkers⟩

/-- The configuration that is made is the one the variables give. -/
theorem gives_of_ofEnvironment {c : Config} (h : Config.ofEnvironment env = .ok c) :
    env.Gives c := by
  obtain ⟨name, hname, hread, huser, hauth, hworkers⟩ := Config.ofEnvironment_eq_ok_iff.mp h
  obtain ⟨hlookup, hne⟩ := nonEmpty?_eq_some_iff.mp hname
  refine ⟨⟨name, hlookup, hne, hread⟩, fun user => ?_, ?_, fun s hs hs' => ?_, fun hnone => ?_⟩
  · rw [huser, nonEmpty?_eq_some_iff]
  · cases hflag : env.lookup authVariable with
    | none =>
      rw [hflag, Option.getD_none, readFlag_absent, Except.ok.injEq] at hauth
      simp [← hauth]
    | some s =>
      rw [hflag, Option.getD_some] at hauth
      simp only [Option.some.injEq, exists_eq_left']
      constructor
      · intro htrue
        rw [htrue] at hauth
        simpa using readFlag_eq_ok_iff.mp hauth
      · intro hword
        have htrue : readFlag s = .ok true := readFlag_eq_ok_iff.mpr (by simpa using hword)
        exact (Except.ok.inj (hauth.symm.trans htrue))
  · rw [nonEmpty?_of_lookup hs hs', Config.workersOf, Option.elim_some,
      Config.workersRule_eq_ok_iff] at hworkers
    exact hworkers
  · rw [nonEmpty?_eq_none_iff.mpr hnone, Config.workersOf, Option.elim_none, Except.ok.injEq,
      Subtype.mk.injEq] at hworkers
    exact hworkers.symm

/-- A refused environment is refused for the value of one of its variables. -/
theorem refuses_of_ofEnvironment {refusal : ConfigRefusal}
    (h : Config.ofEnvironment env = .error refusal) : env.Refuses refusal := by
  cases hname : env.nonEmpty? instanceVariable with
  | none =>
    rw [Config.ofEnvironment, hname, Except.error.injEq] at h
    rw [← h]
    exact .noInstance (nonEmpty?_eq_none_iff.mp hname)
  | some name =>
    have hthere := nonEmpty?_eq_some_iff.mp hname
    rw [Config.ofEnvironment_of_named hname] at h
    cases hauth : readFlag ((env.lookup authVariable).getD "") with
    | error cause =>
      rw [hauth, Except.bind, Except.error.injEq] at h
      obtain ⟨s, hflag, hword, hcause⟩ := exists_flag_of_readFlag_error hauth
      rw [← h, hcause]
      exact .flag name s hthere hflag hword
    | ok auth =>
      rw [hauth, Except.bind] at h
      cases hmade : Config.ofFields (Config.environmentFields name (env.nonEmpty? userVariable)
          auth (env.nonEmpty? workersVariable)) with
      | ok c => simp only [hmade, Except.mapError, reduceCtorEq] at h
      | error errors =>
        simp only [hmade, Except.mapError, Except.error.injEq] at h
        rw [← h]
        obtain ⟨hsome, hplace⟩ := Config.reports_environmentFields _ _ _ _ errors hmade
        exact .fields name errors hthere (exists_readFlag_iff.mp ⟨auth, hauth⟩) hsome hplace

/-- What an environment gives. It makes a configuration exactly when it is sound, and then the
one that its variables give; else it is refused for the value of one of them; and variables other
than these four count for nothing. -/
theorem configuration_laws (env : Environment) :
    ((∃ c, Config.ofEnvironment env = .ok c) ↔ env.IsSound) ∧
    (∀ c, Config.ofEnvironment env = .ok c → env.Gives c) ∧
    (∀ refusal, Config.ofEnvironment env = .error refusal → env.Refuses refusal) ∧
    ∀ env' : Environment, (∀ name ∈ Config.variableNames, env.lookup name = env'.lookup name) →
      Config.ofEnvironment env' = Config.ofEnvironment env := by
  refine ⟨exists_ofEnvironment_iff, fun _ => gives_of_ofEnvironment,
    fun _ => refuses_of_ofEnvironment, fun env' hsame => ?_⟩
  exact (Config.ofEnvironment_congr (hsame _ (by decide)) (hsame _ (by decide))
    (hsame _ (by decide)) (hsame _ (by decide))).symm

end Environment

end InstanceLink
