import InstanceLink.Field.WholeNumber

/-!
# Rules for single fields

How a loosely typed value becomes a text, a truth value or a whole number.
-/

namespace InstanceLink.FieldRule

/-- A text, or bytes that are one. -/
def text : FieldValue → Except FieldFault String
  | .text value => .ok value
  | .bytes value =>
    match Text.decodeUtf8? value with
    | some cs => .ok (String.ofList cs)
    | none => .error .notUnicode
  | .other value _ => value.text
  | _ => .error .notText

/-- The words for true and false, in any case. -/
def boolWords : List (String × Bool) :=
  [("0", false), ("off", false), ("f", false), ("false", false), ("n", false), ("no", false),
    ("1", true), ("on", true), ("t", true), ("true", true), ("y", true), ("yes", true)]

/-- The truth value of a word. -/
def boolOfWord (s : String) : Except FieldFault Bool :=
  match boolWords.lookup (String.ofList (s.toList.map Char.toLower)) with
  | some value => .ok value
  | none => .error .unreadableBool

/-- The least whole number beyond 64 signed bits. -/
def wordBound : Int := 0x8000000000000000

/-- The truth value of a whole number that fits 64 bits. -/
def boolOfInt (i : Int) : Except FieldFault Bool :=
  if i = 0 then .ok false
  else if i = 1 then .ok true
  else if -wordBound ≤ i && i < wordBound then .error .unreadableBool
  else .error .notBool

/-- A truth value, a word for one, or one of the numbers zero and one. -/
def bool : FieldValue → Except FieldFault Bool
  | .bool value => .ok value
  | .int value => boolOfInt value
  | .float value =>
    match value.toInt? with
    | some i => if -wordBound < i && i < wordBound then boolOfInt i else .error .notBool
    | none => .error .notBool
  | .text value => boolOfWord value
  | .bytes value =>
    match Text.decodeUtf8? value with
    | some cs => boolOfWord (String.ofList cs)
    | none => .error .unreadableBool
  | .other value _ => value.bool
  | _ => .error .notBool

/-- The whole number a decimal one equals, within 64 bits. -/
def intOfFloat (x : Binary64) : Except FieldFault Int :=
  if !x.isFinite then .error .notFinite
  else
    match x.toInt? with
    | none => .error .fractionalInt
    | some i => if -wordBound < i && i < wordBound then .ok i else .error .oversizedInt

/-- A whole number, or a value that stands for one. -/
def int : FieldValue → Except FieldFault Int
  | .bool value => .ok (if value then 1 else 0)
  | .int value => .ok value
  | .float value => intOfFloat value
  | .text value => WholeNumber.read value
  | .bytes value =>
    match Text.decodeUtf8? value with
    | some cs => WholeNumber.read (String.ofList cs)
    | none => .error .unreadableInt
  | .other value _ => value.int
  | _ => .error .notInt

/-- A whole number that is not below the least one. -/
def intAtLeast (least : Int) (value : FieldValue) : Except FieldFault Int := do
  let i ← int value
  if i < least then .error (.tooSmall least) else .ok i

/-- A certificate object. -/
def certificate : FieldValue → Except FieldFault Certificate
  | .certificate value => .ok value
  | _ => .error (.notInstance "Certificate")

end InstanceLink.FieldRule
