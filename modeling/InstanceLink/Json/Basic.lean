import InstanceLink.Number.Binary64

/-!
# JSON values

Values with whole numbers kept apart from decimal ones, and objects as fields in
the order they are written.
-/

namespace InstanceLink

/-- A JSON value. -/
inductive Json where
  | null
  | bool (value : Bool)
  /-- A number written without a point and without an exponent. -/
  | int (value : Int)
  /-- Any other number. -/
  | decimal (value : Binary64)
  | text (value : String)
  | list (items : List Json)
  /-- Fields in written order. -/
  | object (fields : List (String × Json))
  deriving Inhabited

namespace Json

/-- The fields of an object; other values have none. -/
def fields : Json → List (String × Json)
  | .object fields => fields
  | _ => []

/-- The value of a field, when it is present. -/
def field? (value : Json) (name : String) : Option Json := value.fields.lookup name

/-- The items of a list; other values have none. -/
def items : Json → List Json
  | .list items => items
  | _ => []

/-- The text of a text value. -/
def text? : Json → Option String
  | .text value => some value
  | _ => none

/-- The number of a whole-number value. -/
def int? : Json → Option Int
  | .int value => some value
  | _ => none

end Json

end InstanceLink
