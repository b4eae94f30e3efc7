import InstanceLink.Field.Value

/-!
# Field reports

Where a field is at fault, and the report that lists all faults of one construction
in the order of the declared fields.
-/

namespace InstanceLink

/-- One step of the way to a value. -/
inductive FieldStep where
  /-- A field by its name. -/
  | field (name : String)
  /-- An item by its position. -/
  | item (index : Nat)
  deriving DecidableEq, Repr

/-- The text of a step. -/
def FieldStep.text : FieldStep → String
  | .field name => name
  | .item index => toString index

/-- A fault with its place and the offending value. -/
structure FieldError where
  place : List FieldStep
  fault : FieldFault
  value : FieldValue

/-- All faults of one construction. -/
structure FieldReport where
  /-- The type that was to be built. -/
  title : String
  errors : List FieldError

namespace FieldError

/-- The error seen from one level further out. -/
def within (step : FieldStep) (e : FieldError) : FieldError :=
  { e with place := step :: e.place }

/-- The longest part of a text of at most `size` bytes, from its front. -/
def takeBytes (size : Nat) : List Char → List Char
  | [] => []
  | c :: rest => if c.utf8Size ≤ size then c :: takeBytes (size - c.utf8Size) rest else []

/-- A writing of more than fifty bytes is cut in the middle: about half of that
from either end is kept, never a part of a character. -/
def shortened (s : String) : String :=
  if 50 < s.utf8ByteSize then
    let cs := s.toList
    String.ofList (takeBytes 25 cs) ++ "..." ++
      String.ofList (takeBytes 24 cs.reverse).reverse
  else s

/-- The two lines of an error: where, and what. -/
def text (e : FieldError) : String :=
  ".".intercalate (e.place.map FieldStep.text) ++ "\n  " ++ e.fault.message ++ " [type=" ++
    e.fault.code ++ ", input_value=" ++ shortened e.value.literal ++ ", input_type=" ++
    e.value.typeName ++ "]"

end FieldError

/-- The whole report as text. -/
def FieldReport.text (r : FieldReport) : String :=
  let count := r.errors.length
  toString count ++ (if count = 1 then " validation error for " else " validation errors for ") ++
    r.title ++ "\n" ++ "\n".intercalate (r.errors.map FieldError.text)

end InstanceLink
