import InstanceLink.Config.Environment
import InstanceLink.Proofs.Instance.Grammar
import InstanceLink.Tls.Properties

/-!
# Configurations as pool properties

What an environment's configuration hands to a connection pool is enough to get it back: the
pool's factory works for the same instance, and the properties, read as the variables they
stand for, give the same instance, user and flag.
-/

namespace InstanceLink

namespace Config

/-- The number of workers when none is given is large enough. -/
theorem two_le_defaultWorkers : 2 ≤ defaultWorkers := by decide

/-- Loose fields make a configuration exactly when each field makes its part of it. -/
theorem ofFields_eq_ok_iff {fields : Fields} {c : Config} :
    ofFields fields = .ok c ↔
      instanceField fields = .ok c.instanceName ∧
      Checked.named fields "iam_user" (.ok none) userRule = .ok c.iamUser ∧
      Checked.named fields "enable_iam_auth" (.ok false) FieldRule.bool = .ok c.enableIamAuth ∧
      Checked.named fields "max_workers" (.ok ⟨defaultWorkers, two_le_defaultWorkers⟩) workersRule =
        .ok ⟨c.maxWorkers, c.two_le_maxWorkers⟩ := by
  obtain ⟨name, user, auth, workers, hworkers⟩ := c
  rw [ofFields, ← and_assoc, ← Checked.both_eq_ok, ← Checked.both_eq_ok, ← Checked.both_eq_ok]
  cases Checked.both (Checked.both (instanceField fields) _) (Checked.both _ _) with
  | ok parts =>
    obtain ⟨⟨name', user'⟩, auth', workers', hworkers'⟩ := parts
    simp only [Except.map, Except.ok.injEq, Config.mk.injEq, Prod.mk.injEq, Subtype.mk.injEq,
      and_assoc]
  | error errors => simp only [Except.map, reduceCtorEq]

/-- The number of workers that a variable gives. -/
def workersOf (given : Option String) : Except FieldFault Workers :=
  given.elim (.ok ⟨defaultWorkers, two_le_defaultWorkers⟩) fun n => workersRule (.text n)

/-- The fields that an environment offers. -/
def environmentFields (name : String) (user : Option String) (auth : Bool)
    (workers : Option String) : Fields :=
  [("instance_name", .text name), ("iam_user", user.elim .null FieldValue.text),
    ("enable_iam_auth", .bool auth)] ++
    match workers with
    | some n => [("max_workers", .text n)]
    | none => []

/-- The instance among the fields of an environment is read from its written name. -/
theorem instanceField_environmentFields {name : String} {user : Option String} {auth : Bool}
    {workers : Option String} {n : InstanceName} :
    instanceField (environmentFields name user auth workers) = .ok n ↔
      InstanceName.read name = .ok n := by
  have hlookup : (environmentFields name user auth workers).lookup "instance_name" =
      some (.text name) := rfl
  simp only [instanceField, hlookup]
  cases InstanceName.read name with
  | ok found => simp only [Except.ok.injEq]
  | error cause => cases cause <;> simp only [reduceCtorEq]

/-- The number of workers among the fields of an environment is that of the variable. -/
theorem named_environmentFields_workers {name : String} {user : Option String} {auth : Bool}
    {given : Option String} {count : Workers} :
    Checked.named (environmentFields name user auth given) "max_workers"
        (.ok ⟨defaultWorkers, two_le_defaultWorkers⟩) workersRule = .ok count ↔
      workersOf given = .ok count := by
  cases given with
  | none =>
    have hnamed : Checked.named (environmentFields name user auth none) "max_workers"
        (.ok ⟨defaultWorkers, two_le_defaultWorkers⟩) workersRule =
          .ok ⟨defaultWorkers, two_le_defaultWorkers⟩ := rfl
    simp only [hnamed, workersOf, Option.elim_none, Except.ok.injEq]
  | some n =>
    have hnamed : Checked.named (environmentFields name user auth (some n)) "max_workers"
        (.ok ⟨defaultWorkers, two_le_defaultWorkers⟩) workersRule =
          (workersRule (.text n)).mapError
            fun fault => [⟨[.field "max_workers"], fault, .text n⟩] := rfl
    rw [hnamed, mapError_eq_ok_iff, workersOf, Option.elim_some]

/-- The fields of an environment make a configuration exactly when the name reads as the instance
and the number of workers is one. -/
theorem ofFields_environmentFields {name : String} {user : Option String} {auth : Bool}
    {workers : Option String} {c : Config} :
    ofFields (environmentFields name user auth workers) = .ok c ↔
      InstanceName.read name = .ok c.instanceName ∧ c.iamUser = user ∧ c.enableIamAuth = auth ∧
        workersOf workers = .ok ⟨c.maxWorkers, c.two_le_maxWorkers⟩ := by
  have huser : Checked.named (environmentFields name user auth workers) "iam_user" (.ok none)
      userRule = .ok user := by
    cases user <;> rfl
  have hauth : Checked.named (environmentFields name user auth workers) "enable_iam_auth"
      (.ok false) FieldRule.bool = .ok auth := rfl
  rw [ofFields_eq_ok_iff, instanceField_environmentFields, huser, hauth,
    named_environmentFields_workers]
  simp only [Except.ok.injEq, eq_comm]

/-- Where the instance is named, the flag is read first and the fields are checked behind it. -/
theorem ofEnvironment_of_named {env : Environment} {name : String}
    (hname : env.nonEmpty? Environment.instanceVariable = some name) :
    ofEnvironment env =
      (Environment.readFlag ((env.lookup Environment.authVariable).getD "")).bind fun auth =>
        (ofFields (environmentFields name (env.nonEmpty? Environment.userVariable) auth
          (env.nonEmpty? Environment.workersVariable))).mapError
            fun errors => .fields ⟨title, errors⟩ := by
  rw [ofEnvironment, hname]
  rfl

/-- An environment gives a configuration exactly when it names the instance, its flag is a word
for the configuration's, its number of workers is the configuration's, and the user is there if
the configuration has it. -/
theorem ofEnvironment_eq_ok_iff {env : Environment} {c : Config} :
    ofEnvironment env = .ok c ↔
      ∃ name, env.nonEmpty? Environment.instanceVariable = some name ∧
        InstanceName.read name = .ok c.instanceName ∧
        c.iamUser = env.nonEmpty? Environment.userVariable ∧
        Environment.readFlag ((env.lookup Environment.authVariable).getD "") =
          .ok c.enableIamAuth ∧
        workersOf (env.nonEmpty? Environment.workersVariable) =
          .ok ⟨c.maxWorkers, c.two_le_maxWorkers⟩ := by
  cases hname : env.nonEmpty? Environment.instanceVariable with
  | none =>
    simp only [ofEnvironment, hname, reduceCtorEq, false_and, exists_false]
  | some name =>
    simp only [Option.some.injEq, exists_eq_left', ofEnvironment_of_named hname]
    cases Environment.readFlag ((env.lookup Environment.authVariable).getD "") with
    | ok auth =>
      rw [Except.ok.injEq, eq_comm (a := auth), Except.bind, mapError_eq_ok_iff,
        ofFields_environmentFields]
    | error cause =>
      simp only [Except.bind, reduceCtorEq, false_and, and_false]

end Config

/-- A written name is not empty. -/
theorem InstanceName.isEmpty_text (n : InstanceName) : n.text.isEmpty = false := by
  rw [← Bool.not_eq_true, String.isEmpty_iff]
  intro hempty
  have hlist : n.text.toList = [] := by rw [hempty, String.toList_empty]
  rw [text, clusterName] at hlist
  simp only [String.toList_append, List.append_assoc, List.append_eq_nil_iff] at hlist
  exact absurd hlist.1 (by decide)

namespace Environment

/-- The variables that the properties of a configuration stand for. -/
def propertyVariables : List (String × String) :=
  [(Config.instanceProperty, instanceVariable), (Config.authProperty, authVariable),
    (Config.userProperty, userVariable)]

/-- The environment that gives some properties back as the variables they stand for; other
properties stand for none. -/
def ofProperties (properties : List (String × String)) : Environment :=
  properties.filterMap fun (property, value) =>
    (propertyVariables.lookup property).map fun name => (name, value)

/-- The variables of a configuration's own properties. -/
theorem ofProperties_properties (c : Config) :
    ofProperties c.properties =
      [(instanceVariable, c.instanceName.text),
        (authVariable, if c.enableIamAuth then "true" else "false")] ++
      ((c.iamUser.filter fun user => !user.isEmpty).map fun user =>
        (userVariable, user)).toList := by
  obtain ⟨name, user, auth, workers, hworkers⟩ := c
  cases user with
  | none => rfl
  | some user =>
    by_cases huser : user.isEmpty = true
    · simp only [Config.properties, huser, if_true, Option.filter_some, Bool.not_true,
        Bool.false_eq_true, if_false]
      rfl
    · simp only [Bool.not_eq_true] at huser
      simp only [Config.properties, huser, Option.filter_some, Bool.not_false, if_true,
        Bool.false_eq_true, if_false]
      rfl

/-- The flag of a configuration is written as a word for it. -/
theorem readFlag_property (auth : Bool) :
    readFlag (if auth then "true" else "false") = .ok auth := by
  cases auth <;> rfl

/-- The variable of the instance holds its written name. -/
theorem nonEmpty?_ofProperties_instance (c : Config) :
    (ofProperties c.properties).nonEmpty? instanceVariable = some c.instanceName.text := by
  rw [ofProperties_properties]
  have hlookup : ∀ rest : Environment,
      ((instanceVariable, c.instanceName.text) :: rest).lookup instanceVariable =
        some c.instanceName.text := fun _ => List.lookup_cons_self
  simp only [nonEmpty?, List.cons_append, hlookup, Option.filter_some, c.instanceName.isEmpty_text,
    Bool.not_false, if_true]

/-- The variable of the flag holds the flag's word. -/
theorem lookup_ofProperties_auth (c : Config) :
    (ofProperties c.properties).lookup authVariable =
      some (if c.enableIamAuth then "true" else "false") := by
  rw [ofProperties_properties]
  rfl

/-- The variable of the user holds the user, unless that is empty. -/
theorem nonEmpty?_ofProperties_user (c : Config) :
    (ofProperties c.properties).nonEmpty? userVariable =
      c.iamUser.filter fun user => !user.isEmpty := by
  rw [ofProperties_properties]
  cases hkept : c.iamUser.filter fun user => !user.isEmpty with
  | none => rfl
  | some user =>
    have huser := (Option.filter_eq_some_iff.mp hkept).2
    have hlookup : ∀ name auth : String, ([(instanceVariable, name), (authVariable, auth)] ++
        [(userVariable, user)]).lookup userVariable = some user := fun _ _ => rfl
    simp only [nonEmpty?, Option.map_some, Option.toList_some, hlookup, Option.filter_some, huser,
      if_true]

/-- No variable holds a number of workers. -/
theorem nonEmpty?_ofProperties_workers (c : Config) :
    (ofProperties c.properties).nonEmpty? workersVariable = none := by
  rw [ofProperties_properties]
  cases c.iamUser.filter fun user => !user.isEmpty <;> rfl

end Environment

/-- The properties of a configuration that an environment gave keep it. The factory of these
properties works for the configuration's instance, on the shared executor and client and with
a key of its own; and the properties, read as the variables they stand for, give the
configuration again, but for the number of workers, which they leave out. -/
theorem ofEnvironment_properties {env : Environment} {c : Config}
    (h : Config.ofEnvironment env = .ok c) :
    SocketFactory.ofProperties c.properties =
      ([.executor, .adminClient, .keyPair], .ok c.instanceName) ∧
    ∃ d, Config.ofEnvironment (Environment.ofProperties c.properties) = .ok d ∧
      d.instanceName = c.instanceName ∧ d.enableIamAuth = c.enableIamAuth ∧
      d.iamUser = c.iamUser ∧ d.maxWorkers = Config.defaultWorkers := by
  obtain ⟨name, hname, hread, huser, -, -⟩ := Config.ofEnvironment_eq_ok_iff.mp h
  have hagain := InstanceName.read_text_of_read hread
  constructor
  · have hlookup : c.properties.lookup Config.instanceProperty = some c.instanceName.text := rfl
    simp only [SocketFactory.ofProperties, hlookup, Option.filter_some,
      InstanceName.isEmpty_text, Bool.not_false, if_true, hagain]
  · refine ⟨⟨c.instanceName, c.iamUser, c.enableIamAuth, Config.defaultWorkers,
        Config.two_le_defaultWorkers⟩,
      Config.ofEnvironment_eq_ok_iff.mpr ⟨c.instanceName.text, ?_, hagain, ?_, ?_, ?_⟩,
      rfl, rfl, rfl, rfl⟩
    · rw [Environment.nonEmpty?_ofProperties_instance]
    · rw [Environment.nonEmpty?_ofProperties_user, huser, Environment.nonEmpty?,
        Option.filter_filter]
      simp only [Bool.and_self]
    · rw [Environment.lookup_ofProperties_auth]
      exact Environment.readFlag_property c.enableIamAuth
    · rw [Environment.nonEmpty?_ofProperties_workers]
      rfl

/-- An environment with blanks around the name of its instance and a flag in capitals. -/
def sampleEnvironment : Environment :=
  [(Environment.instanceVariable, " projects/shop/locations/eu/clusters/main/instances/one\n"),
    (Environment.userVariable, "app"), (Environment.authVariable, "YES")]

/-- The configuration of the sample. -/
def sampleConfig : Config :=
  ⟨⟨⟨"shop", by decide⟩, ⟨"eu", by decide⟩, ⟨"main", by decide⟩, ⟨"one", by decide⟩⟩, some "app",
    true, Config.defaultWorkers, Config.two_le_defaultWorkers⟩

/-- The sample's properties keep its configuration. -/
theorem ofEnvironment_properties_sample :
    Config.ofEnvironment sampleEnvironment = .ok sampleConfig ∧
      SocketFactory.ofProperties sampleConfig.properties =
        ([.executor, .adminClient, .keyPair], .ok sampleConfig.instanceName) ∧
      ∃ d, Config.ofEnvironment (Environment.ofProperties sampleConfig.properties) = .ok d ∧
        d.instanceName = sampleConfig.instanceName ∧ d.enableIamAuth = true ∧
        d.iamUser = some "app" ∧ d.maxWorkers = 4 := by
  have h : Config.ofEnvironment sampleEnvironment = .ok sampleConfig := rfl
  exact ⟨h, ofEnvironment_properties h⟩

end InstanceLink
