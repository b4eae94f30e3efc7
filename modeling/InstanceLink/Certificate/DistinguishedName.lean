import InstanceLink.Certificate.Name
import InstanceLink.Text.Hex

/-!
# Distinguished names

Decoded names and their text: the last set of attributes first, sets joined by
commas, attributes of one set by plus signs, and every character that has a
meaning in the text escaped.
-/

namespace InstanceLink

/-- A decoded attribute value. -/
inductive NameValue where
  | text (value : String)
  /-- The octets of a unique identifier. -/
  | bits (value : List UInt8)
  deriving DecidableEq, Repr

/-- Why a name cannot be decoded. -/
inductive NameRefusal where
  /-- A value is of no text type or is not well-formed text. -/
  | undecodable
  /-- A bit string stands where only a unique identifier may hold one. -/
  | bitString
  /-- A set holds no attribute. -/
  | emptySet
  /-- A set holds an attribute twice. -/
  | duplicate
  deriving DecidableEq, Repr

/-- The wording of a refusal. -/
def NameRefusal.message : NameRefusal → String
  | .undecodable => "error parsing asn1 value: invalid value"
  | .bitString => "oid must be X500_UNIQUE_IDENTIFIER for BitString type."
  | .emptySet => "a relative distinguished name cannot be empty"
  | .duplicate => "duplicate attributes are not allowed"

/-- A decoded name: sets of attributes in written order. -/
abbrev DistinguishedName := List (List (List Nat × NameValue))

namespace DistinguishedName

/-- The value types that can be asked for. -/
def textTags : List Nat := [3, 4, 12, 18, 19, 20, 22, 23, 24, 26, 28, 30]

/-- The kind of attribute that may hold a bit string. -/
def uniqueIdentifier : List Nat := [2, 5, 4, 45]

/-- The decoded value of an attribute. -/
def decodeValue (a : NameAttribute) : Except NameRefusal (List Nat × NameValue) :=
  let text (cs : Option (List Char)) : Except NameRefusal (List Nat × NameValue) :=
    match cs with
    | some cs => .ok (a.kind, .text (String.ofList cs))
    | none => .error .undecodable
  if !textTags.contains a.tag then .error .undecodable
  else if a.tag = Der.Tag.bitString then
    if a.kind = uniqueIdentifier then .ok (a.kind, .bits a.content) else .error .bitString
  else if a.tag = Der.Tag.bmpString then text (NameAttribute.wide? a.content)
  else if a.tag = Der.Tag.universalString then text (NameAttribute.universal? a.content)
  else text (Text.decodeUtf8? a.content)

/-- Whether no member of a list occurs twice. -/
def allDistinct : List (List Nat × NameValue) → Bool
  | [] => true
  | a :: rest => !rest.contains a && allDistinct rest

/-- A decoded set of attributes. -/
def decodeSet (set : List NameAttribute) : Except NameRefusal (List (List Nat × NameValue)) := do
  let attributes ← set.mapM decodeValue
  if attributes.isEmpty then .error .emptySet
  else if allDistinct attributes then .ok attributes
  else .error .duplicate

/-- The decoded name, or the first fault in written order. -/
def ofRaw (name : RawName) : Except NameRefusal DistinguishedName := name.mapM decodeSet

/-- The short names of attribute kinds; every other kind is written by its arcs. -/
def shortNames : List (List Nat × String) :=
  [([2, 5, 4, 3], "CN"), ([2, 5, 4, 7], "L"), ([2, 5, 4, 8], "ST"), ([2, 5, 4, 10], "O"),
    ([2, 5, 4, 11], "OU"), ([2, 5, 4, 6], "C"), ([2, 5, 4, 9], "STREET"),
    ([0, 9, 2342, 19200300, 100, 1, 25], "DC"), ([0, 9, 2342, 19200300, 100, 1, 1], "UID")]

/-- The name of an attribute kind. -/
def kindName (kind : List Nat) : String := (shortNames.lookup kind).getD (Der.dotted kind)

/-- One character of a value. -/
def escapeChar (c : Char) : List Char :=
  if "\\\"+,;<>".toList.contains c then ['\\', c]
  else if c.toNat = 0 then ['\\', '0', '0']
  else [c]

/-- A leading number sign, or a leading space of a longer value, is escaped. -/
def escapeFirst : List Char → List Char
  | '#' :: rest => '\\' :: '#' :: rest
  | ' ' :: c :: rest => '\\' :: ' ' :: c :: rest
  | cs => cs

/-- A trailing space is escaped. -/
def escapeLast (cs : List Char) : List Char :=
  match cs.reverse with
  | ' ' :: rest => rest.reverse ++ ['\\', ' ']
  | _ => cs

/-- The text of a value; octets are written in hexadecimal. -/
def valueText : NameValue → List Char
  | .text value => escapeLast (escapeFirst (value.toList.flatMap escapeChar))
  | .bits [] => []
  | .bits bytes => '#' :: bytes.flatMap Text.hexByte

/-- The text of one attribute. -/
def attributeText (a : List Nat × NameValue) : String :=
  kindName a.1 ++ "=" ++ String.ofList (valueText a.2)

/-- The text of a name. -/
def text (name : DistinguishedName) : String :=
  ",".intercalate (name.reverse.map fun set => "+".intercalate (set.map attributeText))

end DistinguishedName

end InstanceLink
