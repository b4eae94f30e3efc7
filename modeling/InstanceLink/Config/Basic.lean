import InstanceLink.Instance.Reader

/-!
# Configuration

The settings of a connector: the instance, the database user, whether the user
authenticates by identity, and the number of workers. A configuration is built
from loose fields and can be handed on as plain properties.
-/

namespace InstanceLink

/-- The settings of a connector. -/
structure Config where
  instanceName : InstanceName
  iamUser : Option String
  enableIamAuth : Bool
  maxWorkers : Nat
  /-- Both calls of a fetch run at once. -/
  two_le_maxWorkers : 2 ≤ maxWorkers
  deriving DecidableEq

namespace Config

/-- The type's name in reports. -/
def title : String := "ConnectorConfig"

/-- The number of workers when none is given. -/
def defaultWorkers : Nat := 4

/-- The least number of workers. -/
def leastWorkers : Nat := 2

/-- A number of workers with its bound. -/
abbrev Workers := { n : Nat // 2 ≤ n }

/-- The field of the instance: a written name, named segments, or a name. -/
def instanceField (fields : Fields) : Checked InstanceName :=
  let here : FieldStep := .field "instance_name"
  let alone (value : FieldValue) (fault : FieldFault) : Checked InstanceName :=
    .error [⟨[here], fault, value⟩]
  match fields.lookup "instance_name" with
  | none => alone (.map fields) .missing
  | some (.instanceName name) => .ok name
  | some (.map entries) =>
    (InstanceName.ofFields entries).mapError fun errors => errors.map (FieldError.within here)
  | some (.text s) =>
    match InstanceName.read s with
    | .ok name => .ok name
    | .error (.segments errors) => .error (errors.map (FieldError.within here))
    | .error (.shape given) => alone (.text s) (.rule (InstanceRefusal.shapeMessage given))
  | some value => alone value (.notRecord InstanceName.title)

/-- The field of the database user. -/
def userRule : FieldValue → Except FieldFault (Option String)
  | .null => .ok none
  | value => (FieldRule.text value).map some

/-- The field of the number of workers. -/
def workersRule (value : FieldValue) : Except FieldFault Workers := do
  let i ← FieldRule.intAtLeast leastWorkers value
  if h : 2 ≤ i.toNat then .ok ⟨i.toNat, h⟩ else .error (.tooSmall leastWorkers)

/-- The configuration of loose fields. -/
def ofFields (fields : Fields) : Checked Config :=
  let name := instanceField fields
  let user := Checked.named fields "iam_user" (.ok none) userRule
  let auth := Checked.named fields "enable_iam_auth" (.ok false) FieldRule.bool
  let workers := Checked.named fields "max_workers" (.ok ⟨defaultWorkers, by decide⟩) workersRule
  (Checked.both (Checked.both name user) (Checked.both auth workers)).map
    fun ((name, user), auth, workers) => ⟨name, user, auth, workers.val, workers.property⟩

/-- The socket factory that reads the properties. -/
def socketFactory : String := "alloydb_connector.tls.SocketFactory"

/-- The property that holds the instance. -/
def instanceProperty : String := "alloydbInstanceName"

/-- The property that holds the authentication flag. -/
def authProperty : String := "alloydbEnableIAMAuth"

/-- The property that holds the database user. -/
def userProperty : String := "user"

/-- The properties handed to a connection pool. -/
def properties (c : Config) : List (String × String) :=
  [("socketFactory", socketFactory), (instanceProperty, c.instanceName.text),
    (authProperty, if c.enableIamAuth then "true" else "false")] ++
    match c.iamUser with
    | some user => if user.isEmpty then [] else [(userProperty, user)]
    | none => []

end Config

end InstanceLink
