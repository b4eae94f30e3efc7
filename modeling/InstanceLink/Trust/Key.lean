import InstanceLink.Der.Normal
import InstanceLink.Key.SubjectPublicKey
import InstanceLink.Trust.Curve
import InstanceLink.Trust.Signature

/-!
# Certified keys in a secure transport

How a secure transport reads the key of a certificate: its family, whether it is
worth the demanded 112 bits, and the numbers of an RSA key. A key that cannot be
read is worth nothing. Numbers may be written with too many octets here, and what
stands behind a key does not count.
-/

namespace InstanceLink

/-- A certified key as a transport reads it. -/
structure TransportKey where
  family : KeyFamily
  /-- Whether the key is worth the demanded bits. -/
  isStrong : Bool
  /-- Modulus and exponent of an RSA key. -/
  numbers : Option (Nat × Nat)
  deriving DecidableEq, Repr

namespace TransportKey

open Der (Element)

/-- The least size of an RSA modulus that is worth 112 bits. -/
def leastRsaBits : Nat := 1963

/-- The least size of another prime that is worth 112 bits. -/
def leastPrimeBits : Nat := 2048

/-- The least size of an order or an exponent that is worth 112 bits. -/
def leastOrderBits : Nat := 224

/-- The count of binary digits; zero has none. -/
def bits (n : Nat) : Nat := if n = 0 then 0 else n.log2 + 1

/-- The number in a whole-number element, its sign bit counted as a digit. -/
def unsigned? (e : Element) : Option Nat :=
  if e.tag = Der.Tag.integer then some (Der.natOf e.content) else none

/-- The numbers of a row of whole numbers. -/
def unsignedRow? (e : Element) : Option (List Nat) := do
  if e.tag != Der.Tag.sequence then none
  (← e.children?).mapM unsigned?

/-- Whether octets start with a whole number. -/
def startsWithInteger (octets : List UInt8) : Bool :=
  (Der.generalElement? octets).any fun e => e.tag = Der.Tag.integer && Der.isInteger e.content

/-- The two numbers of an RSA key. -/
def pair? (octets : List UInt8) : Option (Nat × Nat) := do
  match ← unsignedRow? (← Der.generalElement? octets) with
  | [modulus, exponent] => return (modulus, exponent)
  | _ => none

/-- An RSA key of one of the two families. -/
def rsa? (family : KeyFamily) (octets : List UInt8) : Option TransportKey := do
  let (modulus, exponent) ← pair? octets
  return ⟨family, leastRsaBits ≤ bits modulus, some (modulus, exponent)⟩

/-- Names of keys for digital signatures over a prime field. -/
def dsaNames : List (List Nat) :=
  [Algorithm.dsaArcs, [1, 2, 840, 10040, 4, 3]] ++
    Algorithm.members SignatureStrength.mixedFamily [12, 13, 27]

/-- A key for digital signatures over a prime field. Without its group it is worth
nothing. -/
def dsa? (parameters : Option Element) (octets : List UInt8) : Option TransportKey :=
  if startsWithInteger octets then
    match parameters with
    | none => some ⟨.dsa, false, none⟩
    | some group =>
      match unsignedRow? group with
      | some [prime, order, _] =>
        some ⟨.dsa, leastPrimeBits ≤ bits prime && leastOrderBits ≤ bits order, none⟩
      | _ => none
  else none

/-- How a subgroup was found: seed and counter. -/
def isProvenance (e : Element) : Bool :=
  e.isRow [.bits, .integer]

/-- A key for exchanges over a prime field with a subgroup. -/
def exchange? (parameters : Option Element) (octets : List UInt8) : Option TransportKey := do
  let parts ← (← parameters).children?
  if !startsWithInteger octets then none
  match parts with
  | prime :: _ :: order :: rest =>
    let size ← unsigned? prime
    let orderSize ← unsigned? order
    if rest.all fun e => e.tag != Der.Tag.sequence || isProvenance e then
      return ⟨.exchange, leastPrimeBits ≤ bits size && leastOrderBits ≤ bits orderSize, none⟩
    else none
  | _ => none

/-- A key for exchanges over a prime field, whose exponents may have a written size. -/
def agreement? (parameters : Option Element) (octets : List UInt8) : Option TransportKey := do
  let parts ← (← parameters).children?
  if !startsWithInteger octets then none
  match parts with
  | [prime, _] => return ⟨.exchange, leastPrimeBits ≤ bits (← unsigned? prime), none⟩
  | [prime, _, size] =>
    let exponentBits ← unsigned? size
    return ⟨.exchange, leastPrimeBits ≤ bits (← unsigned? prime) &&
      (exponentBits = 0 || leastOrderBits ≤ exponentBits), none⟩
  | _ => none

/-- The name of the national curve. -/
def sm2Arcs : List Nat := [1, 2, 156, 10197, 1, 301]

/-- A point on a curve. -/
def point? (parameters : Option Element) (octets : List UInt8) : Option TransportKey := do
  let curve ← parameters
  match curve.oid? with
  | some arcs =>
    let isStrong ← TransportCurve.namedStrength? arcs octets
    return ⟨if arcs = sm2Arcs then .sm2 else .curve, isStrong, none⟩
  | none => return ⟨.curve, ← TransportCurve.writtenStrength? curve octets, none⟩

/-- The names of RSA keys. -/
def rsaNames : List (List Nat) := [Algorithm.rsaArcs, [2, 5, 8, 1, 1]]

/-- The families whose keys are plain octets, with their names and sizes. -/
def plainKinds : List (List Nat × Nat × KeyFamily) :=
  [([1, 3, 101, 110], 32, .exchange), ([1, 3, 101, 111], 56, .exchange),
    ([1, 3, 101, 112], 32, .ed25519), ([1, 3, 101, 113], 57, .ed448)]

/-- The key of a certificate, when a transport can read it. -/
def of? (key : SubjectPublicKey) : Option TransportKey :=
  let arcs := key.algorithm.arcs
  let parameters := key.algorithm.parameters
  let octets := key.bits.octets
  if rsaNames.contains arcs then rsa? .rsa octets
  else if arcs = Algorithm.rsaPssArcs then rsa? .rsaPss octets
  else if dsaNames.contains arcs then dsa? parameters octets
  else if arcs = Algorithm.exchangeArcs then exchange? parameters octets
  else if arcs = Algorithm.agreementArcs then agreement? parameters octets
  else if arcs = Algorithm.curveArcs then point? parameters octets
  else
    match plainKinds.lookup arcs with
    | some (size, family) => if octets.length = size then some ⟨family, true, none⟩ else none
    | none => none

/-- Whether a transport can present certificates for keys of the family. -/
def isPresentable (key : TransportKey) : Bool := key.family != .exchange && key.family != .sm2

end TransportKey

end InstanceLink
