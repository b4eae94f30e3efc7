import InstanceLink.Certificate.Name
import InstanceLink.Der.Normal
import InstanceLink.Text.Blank
import InstanceLink.Trust.AttributeKind

/-!
# Names in a trust store

How a trust store reads the names in certificates. It takes values of more
alphabets than the certificate's own rules know, compares texts without regard to
case and layout, and lists kinds by their long names.
-/

namespace InstanceLink.StoreName

/-- A value in a name. -/
inductive Value where
  /-- Text, which is compared without regard to case and layout. -/
  | text (cs : List Char)
  /-- Octets, which are compared with their tag. -/
  | octets (tag : Nat) (content : List UInt8)
  deriving DecidableEq, Repr

/-- The number in a tag that is not of a context. -/
def universalNumber? (tag : Nat) : Option Nat := if tag < 0x40 then some (tag % 0x20) else none

/-- The characters of two-byte units; no unit is a half of a pair. -/
def units? : List UInt8 → Option (List Char)
  | [] => some []
  | [_] => none
  | a :: b :: rest => do
    let first ← Text.scalar? 0 (Der.natOf [a, b])
    (units? rest).map (first :: ·)

/-- Each byte as the character of its number. -/
def bytewise (content : List UInt8) : List Char := content.map fun b => Char.ofNat b.toNat

/-- The numbers of the alphabets whose values are kept as octets: digits and all that
has no alphabet. -/
def plainNumbers : List Nat := [7, 8, 9, 11, 13, 14, 15, 18, 29]

/-- The numbers of the alphabets that are read a byte to a character. -/
def bytewiseNumbers : List Nat := [19, 20, 22]

/-- The value of an attribute, when a trust store can read it. -/
def value? (a : NameAttribute) : Option Value := do
  let number ← universalNumber? a.tag
  if number = 16 then
    if Der.isConstructed a.tag then return .octets a.tag a.content else none
  let content ← Der.textOctets? a.tag a.content
  if number = 3 then
    if content.head?.any (·.toNat < 8) then return .octets number content else none
  else if number = 12 then return .text (← Text.decodeUtf8? content)
  else if number = 28 then return .text (← NameAttribute.universal? content)
  else if number = 30 then return .text (← units? content)
  else if bytewiseNumbers.contains number then return .text (bytewise content)
  else if plainNumbers.contains number then return .octets number content
  else none

/-- White space in names. -/
def isSpace (c : Char) : Bool := c = ' ' || ('\t' ≤ c && c ≤ '\r')

/-- Runs of white space as one blank. -/
def singleSpaced : List Char → List Char
  | a :: b :: rest =>
    if isSpace a && isSpace b then singleSpaced (b :: rest)
    else (if isSpace a then ' ' else a) :: singleSpaced (b :: rest)
  | [a] => [if isSpace a then ' ' else a]
  | [] => []

/-- Text as it is compared: without white space around it, with single blanks, in small
letters. -/
def folded (cs : List Char) : List Char :=
  (singleSpaced (Text.trimBy isSpace cs)).map Char.toLower

/-- An attribute as it is compared. -/
def comparable (a : NameAttribute) : List Nat × Option Value :=
  let value := (value? a).map fun
    | .text cs => Value.text (folded cs)
    | other => other
  (a.kind, value)

/-- Whether two sets of attributes are the same. -/
def sameSet (a b : List NameAttribute) : Bool := (a.map comparable).isPerm (b.map comparable)

/-- Whether two names are the same. -/
def same : RawName → RawName → Bool
  | [], [] => true
  | a :: as, b :: bs => sameSet a b && same as bs
  | _, _ => false

/-- Every name is the same as itself. -/
theorem same_self (name : RawName) : same name name = true := by
  induction name with
  | nil => rfl
  | cons set sets ih =>
    simp only [same, ih, Bool.and_true]
    exact List.isPerm_iff.mpr (List.Perm.refl _)

/-- Whether a trust store can read a name. -/
def isReadable (name : RawName) : Bool := name.all fun set => set.all fun a => (value? a).isSome

/-- The text of an attribute value in a listing. -/
def valueText (a : NameAttribute) : String :=
  match value? a with
  | some (.text cs) => String.ofList cs
  | some (.octets _ content) => String.ofList (bytewise content)
  | none => String.ofList (bytewise a.content)

/-- A name as it is listed: sets of kinds and texts in written order. -/
def listed (name : RawName) : List (List (String × String)) :=
  name.map fun set => set.map fun a => (AttributeKind.longName a.kind, valueText a)

/-- An attribute's element as a trust store reads it. -/
def attribute? (e : Der.Element) : Option NameAttribute := do
  if e.tag != Der.Tag.sequence then none
  match ← e.children? with
  | [kind, value] => return ⟨← kind.oid?, value.tag, value.content⟩
  | _ => none

/-- A set's element as a trust store reads it; the order inside does not matter. -/
def set? (e : Der.Element) : Option (List NameAttribute) := do
  if e.tag != Der.Tag.set then none
  (← e.children?).mapM attribute?

/-- A name's element as a trust store reads it. -/
def ofElement? (e : Der.Element) : Option RawName := do
  if e.tag != Der.Tag.sequence then none
  let name ← (← e.children?).mapM set?
  if isReadable name then return name else none

end InstanceLink.StoreName
