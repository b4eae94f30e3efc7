import InstanceLink.Der.Primitive
import InstanceLink.Text.Utf8

/-!
# Names in a certificate

A name is a sequence of sets of attributes, each an object identifier with a
value. Reading a certificate checks the structure, the order inside each set and
the three alphabets that are checked at once; all other values are decoded only
when the name is asked for.
-/

namespace InstanceLink

/-- One attribute of a name, its value undecoded. -/
structure NameAttribute where
  /-- The kind of attribute. -/
  kind : List Nat
  /-- The identifier of the value. -/
  tag : Nat
  /-- The octets of the value. -/
  content : List UInt8
  deriving DecidableEq, Repr

/-- A name as sets of attributes, in the order they are written. -/
abbrev RawName := List (List NameAttribute)

namespace NameAttribute

/-- Whether a byte belongs to the restricted printable alphabet. -/
def isPrintableByte (b : UInt8) : Bool :=
  (Char.ofNat b.toNat).isAlphanum && b.toNat < 128 ||
    " '()+,-./:=?".toList.contains (Char.ofNat b.toNat)

/-- The characters of two-byte units, pairs of halves joined. -/
def wide? : List UInt8 → Option (List Char)
  | [] => some []
  | a :: b :: c :: d :: rest =>
    let unit := 256 * a.toNat + b.toNat
    let next := 256 * c.toNat + d.toNat
    if 0xd800 ≤ unit && unit < 0xdc00 then
      if 0xdc00 ≤ next && next < 0xe000 then
        (wide? rest).map
          (Char.ofNat (0x10000 + (unit - 0xd800) * 0x400 + (next - 0xdc00)) :: ·)
      else none
    else if 0xdc00 ≤ unit && unit < 0xe000 then none
    else (wide? (c :: d :: rest)).map (Char.ofNat unit :: ·)
  | [a, b] =>
    let unit := 256 * a.toNat + b.toNat
    if Text.isScalar unit then some [Char.ofNat unit] else none
  | _ => none

/-- The characters of four-byte units. -/
def universal? : List UInt8 → Option (List Char)
  | [] => some []
  | a :: b :: c :: d :: rest => do
    let first ← Text.scalar? 0 (Der.natOf [a, b, c, d])
    (universal? rest).map (first :: ·)
  | _ => none

/-- Whether a value of one of the three alphabets checked at once is well formed. -/
def isPlausible (tag : Nat) (content : List UInt8) : Bool :=
  if tag = Der.Tag.printableString then content.all isPrintableByte
  else if tag = Der.Tag.bmpString then (wide? content).isSome
  else if tag = Der.Tag.universalString then (universal? content).isSome
  else true

/-- An attribute from its element. -/
def ofElement? (e : Der.Element) : Option NameAttribute := do
  if e.tag != Der.Tag.sequence then none
  match ← e.children? with
  | [kind, value] =>
    let arcs ← kind.oid?
    if isPlausible value.tag value.content then return ⟨arcs, value.tag, value.content⟩ else none
  | _ => none

end NameAttribute

namespace RawName

/-- Whether octets come no later than others in the order of sets. -/
def notAfter : List UInt8 → List UInt8 → Bool
  | [], _ => true
  | _ :: _, [] => false
  | a :: as, b :: bs => a < b || (a = b && notAfter as bs)

/-- Whether each element comes no later than the next. -/
def isOrdered : List Der.Element → Bool
  | a :: b :: rest => notAfter a.octets b.octets && isOrdered (b :: rest)
  | _ => true

/-- A set of attributes from its element. -/
def set? (e : Der.Element) : Option (List NameAttribute) := do
  if e.tag != Der.Tag.set then none
  let parts ← e.children?
  if isOrdered parts then parts.mapM NameAttribute.ofElement? else none

/-- A name from its element. -/
def ofElement? (e : Der.Element) : Option RawName := do
  if e.tag != Der.Tag.sequence then none
  (← e.children?).mapM set?

end RawName

end InstanceLink
