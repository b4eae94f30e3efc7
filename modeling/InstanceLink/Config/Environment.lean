import InstanceLink.Config.Basic

/-!
# Configuration from the environment

Four variables make up a configuration. The instance is required; an empty user or
number of workers counts as absent; the flag is one of a few words. Faults are
found in a fixed order: the instance is absent, the flag is no word, and then
whatever the fields themselves report.
-/

namespace InstanceLink

/-- Variables and their values. -/
abbrev Environment := List (String × String)

/-- Why an environment gives no configuration. -/
inductive ConfigRefusal where
  /-- The instance is not named. -/
  | noInstance
  /-- The flag is no known word. -/
  | flag (given : String)
  /-- Some fields are faulty. -/
  | fields (report : FieldReport)

/-- The wording for a text that is no truth value. -/
def flagMessage (given : String) : String := "expected a boolean, got " ++ Text.quoted given

/-- The wording of a refusal. -/
def ConfigRefusal.message : ConfigRefusal → String
  | .noInstance => "ALLOYDB_INSTANCE_NAME is not set"
  | .flag given => flagMessage given
  | .fields report => report.text

namespace Environment

/-- The variable that names the instance. -/
def instanceVariable : String := "ALLOYDB_INSTANCE_NAME"

/-- The variable that names the database user. -/
def userVariable : String := "ALLOYDB_IAM_USER"

/-- The variable that holds the flag. -/
def authVariable : String := "ALLOYDB_ENABLE_IAM_AUTH"

/-- The variable that holds the number of workers. -/
def workersVariable : String := "ALLOYDB_MAX_WORKERS"

/-- The value of a variable that is set and not empty. -/
def nonEmpty? (env : Environment) (name : String) : Option String :=
  (env.lookup name).filter fun value => !value.isEmpty

/-- The environment with one variable set. -/
def set (env : Environment) (name value : String) : Environment :=
  (name, value) :: env.filter fun entry => entry.1 != name

/-- A variable reads back as it was set. -/
theorem lookup_set (env : Environment) (name value : String) :
    (env.set name value).lookup name = some value := by
  simp [set]

/-- The words for true. -/
def trueWords : List String := ["1", "true", "yes", "on"]

/-- The words for false. -/
def falseWords : List String := ["0", "false", "no", "off", ""]

/-- The truth value of a flag, blanks around it and case aside. -/
def readFlag (s : String) : Except ConfigRefusal Bool :=
  let word := String.ofList ((Text.strip s).toList.map Char.toLower)
  if trueWords.contains word then .ok true
  else if falseWords.contains word then .ok false
  else .error (.flag s)

end Environment

/-- The configuration an environment gives. -/
def Config.ofEnvironment (env : Environment) : Except ConfigRefusal Config := do
  match env.nonEmpty? Environment.instanceVariable with
  | none => .error .noInstance
  | some name =>
    let user : FieldValue :=
      (env.nonEmpty? Environment.userVariable).elim .null FieldValue.text
    let auth ← Environment.readFlag ((env.lookup Environment.authVariable).getD "")
    let workers : Fields :=
      match env.nonEmpty? Environment.workersVariable with
      | some n => [("max_workers", .text n)]
      | none => []
    let fields : Fields :=
      [("instance_name", .text name), ("iam_user", user), ("enable_iam_auth", .bool auth)]
        ++ workers
    (Config.ofFields fields).mapError fun errors => .fields ⟨Config.title, errors⟩

end InstanceLink
