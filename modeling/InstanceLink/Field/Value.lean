import InstanceLink.Certificate.Basic
import InstanceLink.Field.Fault
import InstanceLink.Instance.Name
import InstanceLink.Number.Shortest
import InstanceLink.Text.Quoted

/-!
# Field values

The loosely typed values from which configurations, names and bundles are built,
and the writing of a value inside a message.
-/

namespace InstanceLink

/-- What may be asked of a value of a further type: a member of an enumeration, a text or
octets of a derived type, octets that can be changed, a set. Each answer is its own, so one
that counts as something may be read as the empty text. -/
structure OtherValue where
  typeName : String
  /-- The writing of the value inside a message. -/
  literal : String
  /-- The value written for itself. -/
  display : String
  /-- It counts as nothing. -/
  isBlank : Bool
  text : Except FieldFault String
  bool : Except FieldFault Bool
  int : Except FieldFault Int

/-- A value offered for a field. -/
inductive FieldValue where
  | null
  | bool (value : Bool)
  | int (value : Int)
  | float (value : Binary64)
  | text (value : String)
  | bytes (value : List UInt8)
  | list (items : List FieldValue)
  /-- Named values in written order. -/
  | map (entries : List (String × FieldValue))
  | instanceName (name : InstanceName)
  | certificate (certificate : Certificate)
  /-- A value of any further type, with its items where it is read as a row. -/
  | other (value : OtherValue) (items : Option (List FieldValue))
  deriving Inhabited

/-- The fields offered to a constructor, in written order. -/
abbrev Fields := List (String × FieldValue)

namespace FieldValue

/-- Whether a value counts as absent for an optional field: nothing, false, zero,
or anything empty. A value of a further type answers for itself. -/
def isBlank : FieldValue → Bool
  | .null => true
  | .bool value => !value
  | .int value => value == 0
  | .float value => value.isZero
  | .text value => value.isEmpty
  | .bytes value => value.isEmpty
  | .list items => items.isEmpty
  | .map entries => entries.isEmpty
  | .instanceName _ => false
  | .certificate _ => false
  | .other value _ => value.isBlank

/-- The items of a value that is read as a row. -/
def row? : FieldValue → Option (List FieldValue)
  | .list items => some items
  | .other _ items => items
  | _ => none

/-- The name of a value's type inside messages. -/
def typeName : FieldValue → String
  | .null => "NoneType"
  | .bool _ => "bool"
  | .int _ => "int"
  | .float _ => "float"
  | .text _ => "str"
  | .bytes _ => "bytes"
  | .list _ => "list"
  | .map _ => "dict"
  | .instanceName _ => "InstanceName"
  | .certificate _ => "Certificate"
  | .other value _ => value.typeName

mutual

/-- The writing of a value inside a message. -/
def literal : FieldValue → String
  | .null => "None"
  | .bool value => if value then "True" else "False"
  | .int value => toString value
  | .float value => value.text
  | .text value => Text.quoted value
  | .bytes value => Text.quotedBytes value
  | .list items => "[" ++ ", ".intercalate (literals items) ++ "]"
  | .map entries => "\x7b" ++ ", ".intercalate (literalEntries entries) ++ "\x7d"
  | .instanceName name =>
    "InstanceName(project=" ++ Text.quoted name.project.text ++ ", location=" ++
      Text.quoted name.location.text ++ ", cluster=" ++ Text.quoted name.cluster.text ++
      ", instance=" ++ Text.quoted name.leaf.text ++ ")"
  | .certificate _ => "<Certificate>"
  | .other value _ => value.literal

/-- The writings of the values of a list. -/
def literals : List FieldValue → List String
  | [] => []
  | item :: rest => literal item :: literals rest

/-- The writings of named values. -/
def literalEntries : List (String × FieldValue) → List String
  | [] => []
  | (name, value) :: rest => (Text.quoted name ++ ": " ++ literal value) :: literalEntries rest

end

/-- The writing of a value that stands for itself: a text is given bare. -/
def display : FieldValue → String
  | .text value => value
  | .other value _ => value.display
  | value => value.literal

/-- Several values as a group in round brackets; a group of one keeps its comma. -/
def literalGroup : List FieldValue → String
  | [item] => "(" ++ item.literal ++ ",)"
  | items => "(" ++ ", ".intercalate (literals items) ++ ")"

end FieldValue

end InstanceLink
