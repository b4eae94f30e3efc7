import InstanceLink.Der.Element
import InstanceLink.Der.Tag

/-!
# Writing tagged elements

Shortest-form lengths, whole numbers, and elements around their contents.
-/

namespace InstanceLink.Der

/-- The octets of a natural number, most significant first; zero has none. -/
def octetsOf (n : Nat) : List UInt8 :=
  if _positive : n = 0 then [] else octetsOf (n / 256) ++ [UInt8.ofNat (n % 256)]
termination_by n
decreasing_by omega

/-- The octets of a number have its value. -/
theorem natOf_octetsOf (n : Nat) : natOf (octetsOf n) = n := by
  rw [octetsOf]
  split
  next h => simp [natOf, h]
  next h =>
    have digit : (UInt8.ofNat (n % 256)).toNat = n % 256 := by
      simp only [UInt8.toNat_ofNat']
      omega
    rw [natOf_append_singleton, natOf_octetsOf (n / 256), digit]
    omega
termination_by n
decreasing_by omega

/-- A length in its shortest form. -/
def lengthOctets (n : Nat) : List UInt8 :=
  if n < 0x80 then [UInt8.ofNat n]
  else
    let octets := octetsOf n
    UInt8.ofNat (0x80 + octets.length) :: octets

/-- An element with the given identifier octet. -/
def element (tag : Nat) (content : List UInt8) : List UInt8 :=
  UInt8.ofNat tag :: lengthOctets content.length ++ content

/-- A natural number with the zero octet that keeps it from reading as negative. -/
def naturalElement (n : Nat) : List UInt8 :=
  let octets := octetsOf n
  let content :=
    match octets with
    | [] => [0]
    | a :: _ => if 0x80 ≤ a.toNat then 0 :: octets else octets
  element Tag.integer content

/-- An element around the given elements. -/
def sequenceElement (parts : List (List UInt8)) : List UInt8 :=
  element Tag.sequence parts.flatten

end InstanceLink.Der
