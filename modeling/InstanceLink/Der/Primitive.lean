import InstanceLink.Der.Element
import InstanceLink.Der.Tag

/-!
# Primitive contents

The rules for the contents of numbers, bit strings and object identifiers, and
the values they hold.
-/

namespace InstanceLink.Der

/-- Whether octets are a whole number in its shortest two's-complement form. -/
def isInteger : List UInt8 → Bool
  | [] => false
  | [_] => true
  | a :: b :: _ => !(a.toNat = 0 && b.toNat < 0x80) && !(a.toNat = 0xff && 0x80 ≤ b.toNat)

/-- The value of a whole number's octets. -/
def integerValue (bytes : List UInt8) : Int :=
  match bytes with
  | a :: _ =>
    if 0x80 ≤ a.toNat then (natOf bytes : Int) - Nat.pow 256 bytes.length else natOf bytes
  | [] => 0

/-- The value of an element that holds a natural number. -/
def Element.natural? (e : Element) : Option Nat :=
  if e.tag = Tag.integer && isInteger e.content && 0 ≤ integerValue e.content then
    some (natOf e.content)
  else none

/-- The value of an element that holds a natural number of at most so many bits. -/
def Element.word? (bits : Nat) (e : Element) : Option Nat :=
  e.natural?.filter (· < Nat.pow 2 bits)

/-- A row of bits, packed into octets. -/
structure BitString where
  /-- How many bits of the last octet do not count. -/
  unused : Nat
  /-- The octets. -/
  octets : List UInt8
  deriving DecidableEq, Repr

/-- The bit string of some contents, when the count of unused bits is below eight
and all unused bits are zero. -/
def bitString? : List UInt8 → Option BitString
  | [] => none
  | unused :: bits =>
    let n := unused.toNat
    if 7 < n || (bits.isEmpty && n != 0) then none
    else
      match bits.getLast? with
      | none => some ⟨n, bits⟩
      | some last => if last.toNat % Nat.pow 2 n = 0 then some ⟨n, bits⟩ else none

/-- The bit string of an element. -/
def Element.bitString? (e : Element) : Option BitString :=
  if e.tag = Tag.bitString then Der.bitString? e.content else none

/-- The most bits in a group of an object identifier. -/
def groupBits : Nat := 128

/-- The groups of an object identifier: none of them starts with zero bits or is
too large, and the last one ends. -/
def oidGroups? (fuel : Nat) (bytes : List UInt8) : Option (List Nat) :=
  match fuel, bytes with
  | _, [] => some []
  | 0, _ => none
  | fuel + 1, bytes => do
    let (value, rest) ← groups7? bytes.length false 0 bytes
    if Nat.pow 2 groupBits ≤ value then none
    let others ← oidGroups? fuel rest
    return value :: others

/-- The arcs of an object identifier of at most 63 octets; the first group holds two
of them. -/
def oid? (bytes : List UInt8) : Option (List Nat) :=
  if bytes.isEmpty || 63 < bytes.length then none
  else
    match oidGroups? bytes.length bytes with
    | some (first :: others) =>
      if first < 40 then some (0 :: first :: others)
      else if first < 80 then some (1 :: (first - 40) :: others)
      else some (2 :: (first - 80) :: others)
    | _ => none

/-- The arcs of an element that is an object identifier. -/
def Element.oid? (e : Element) : Option (List Nat) :=
  if e.tag = Tag.objectIdentifier then Der.oid? e.content else none

/-- Arcs joined by points. -/
def dotted (arcs : List Nat) : String := ".".intercalate (arcs.map toString)

/-- Whether an element is the empty value. -/
def Element.isNull (e : Element) : Bool := e.tag = Tag.null && e.content.isEmpty

end InstanceLink.Der
