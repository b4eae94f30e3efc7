/-!
# Field faults

What can be wrong with the value of a field, and how it is worded.
-/

namespace InstanceLink

/-- What is wrong with a value. -/
inductive FieldFault where
  /-- The field is required. -/
  | missing
  /-- The value is no text. -/
  | notText
  /-- The bytes are no text. -/
  | notUnicode
  /-- The value is no whole number. -/
  | notInt
  /-- The text is no whole number. -/
  | unreadableInt
  /-- The whole number is too long. -/
  | oversizedInt
  /-- The number has a fractional part. -/
  | fractionalInt
  /-- The number is an infinity or no number. -/
  | notFinite
  /-- The number is below the least one allowed. -/
  | tooSmall (least : Int)
  /-- The value is no truth value. -/
  | notBool
  /-- The value could be a truth value but is not one of the known words. -/
  | unreadableBool
  /-- The value is no set of named values and no object of the given type. -/
  | notRecord (type : String)
  /-- The value is no object of the given type. -/
  | notInstance (type : String)
  /-- The value is no row of values. -/
  | notRow
  /-- The object cannot be changed. -/
  | frozen
  /-- The value breaks a rule of the domain. -/
  | rule (message : String)
  deriving DecidableEq, Repr

namespace FieldFault

/-- The short name of a fault. -/
def code : FieldFault → String
  | .missing => "missing"
  | .notText => "string_type"
  | .notUnicode => "string_unicode"
  | .notInt => "int_type"
  | .unreadableInt => "int_parsing"
  | .oversizedInt => "int_parsing_size"
  | .fractionalInt => "int_from_float"
  | .notFinite => "finite_number"
  | .tooSmall _ => "greater_than_equal"
  | .notBool => "bool_type"
  | .unreadableBool => "bool_parsing"
  | .notRecord _ => "model_type"
  | .notInstance _ => "is_instance_of"
  | .notRow => "tuple_type"
  | .frozen => "frozen_instance"
  | .rule _ => "value_error"

/-- The wording of a fault. -/
def message : FieldFault → String
  | .missing => "Field required"
  | .notText => "Input should be a valid string"
  | .notUnicode =>
    "Input should be a valid string, unable to parse raw data as a unicode string"
  | .notInt => "Input should be a valid integer"
  | .unreadableInt =>
    "Input should be a valid integer, unable to parse string as an integer"
  | .oversizedInt =>
    "Unable to parse input string as an integer, exceeded maximum size"
  | .fractionalInt =>
    "Input should be a valid integer, got a number with a fractional part"
  | .notFinite => "Input should be a finite number"
  | .tooSmall least => "Input should be greater than or equal to " ++ toString least
  | .notBool => "Input should be a valid boolean"
  | .unreadableBool => "Input should be a valid boolean, unable to interpret input"
  | .notRecord type => "Input should be a valid dictionary or instance of " ++ type
  | .notInstance type => "Input should be an instance of " ++ type
  | .notRow => "Input should be a valid tuple"
  | .frozen => "Instance is frozen"
  | .rule message => "Value error, " ++ message

end FieldFault

end InstanceLink
