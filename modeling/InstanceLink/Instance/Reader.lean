import InstanceLink.Field.Check
import InstanceLink.Field.Rule
import InstanceLink.Instance.Template

/-!
# Reading instance names

Names from loose fields, each checked as a segment, and names from their written
form, blanks around it aside.
-/

namespace InstanceLink

/-- Why a text is no instance name. -/
inductive InstanceRefusal where
  /-- The text has not the shape of a name. -/
  | shape (given : String)
  /-- A part of it is no segment. -/
  | segments (errors : List FieldError)

namespace InstanceName

/-- The type's name in reports. -/
def title : String := "InstanceName"

/-- A field that must be a segment. -/
def segment (value : FieldValue) : Except FieldFault Segment := do
  let s ← FieldRule.text value
  match Segment.ofText? s with
  | some segment => .ok segment
  | none => .error (.rule ("invalid resource name segment: " ++ Text.quoted s))

/-- The name of loose fields. -/
def ofFields (fields : Fields) : Checked InstanceName :=
  let field (name : String) := Checked.named fields name (.error .missing) segment
  let project := field "project"
  let location := field "location"
  let cluster := field "cluster"
  let leaf := field "instance"
  (Checked.both (Checked.both project location) (Checked.both cluster leaf)).map
    fun ((project, location), cluster, leaf) => ⟨project, location, cluster, leaf⟩

/-- The name a text writes, blanks around it aside. -/
def read (s : String) : Except InstanceRefusal InstanceName :=
  match Template.parts? (Text.strip s) with
  | none => .error (.shape s)
  | some parts =>
    (ofFields [("project", .text parts.project), ("location", .text parts.location),
      ("cluster", .text parts.cluster), ("instance", .text parts.leaf)]).mapError .segments

end InstanceName

/-- The wording for a text without the shape of a name. -/
def InstanceRefusal.shapeMessage (given : String) : String :=
  "invalid instance name " ++ Text.quoted given ++ ", expected " ++
    "projects/<PROJECT>/locations/<REGION>/clusters/<CLUSTER>/instances/<INSTANCE>"

/-- The wording of a refusal. -/
def InstanceRefusal.message : InstanceRefusal → String
  | .shape given => shapeMessage given
  | .segments errors => (FieldReport.mk InstanceName.title errors).text

end InstanceLink
