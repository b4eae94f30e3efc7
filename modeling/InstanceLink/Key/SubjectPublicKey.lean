import InstanceLink.Der.Writer
import InstanceLink.Key.Kind
import InstanceLink.Key.Rsa

/-!
# Public keys as elements

The two element forms of an RSA key: the bare pair of numbers, and the same pair
in a bit string beside the name of its algorithm. Reading accepts both; writing
uses the second.
-/

namespace InstanceLink

/-- The bits of a public key beside the name of its algorithm. -/
structure SubjectPublicKey where
  algorithm : Algorithm
  bits : Der.BitString
  deriving DecidableEq, Repr

namespace SubjectPublicKey

/-- Why octets are no RSA key. -/
inductive Refusal where
  /-- They are neither form of a key. -/
  | malformed
  /-- The bits of the key do not fill its octets. -/
  | looseBits
  /-- The algorithm of the key is not known. -/
  | unknownAlgorithm (arcs : List Nat)
  /-- The key is of another kind, and none of that kind. -/
  | kind (cause : KeyKind.Refusal)
  /-- The key is of another kind. -/
  | foreignKey
  /-- The numbers are no key. -/
  | numbers (cause : RsaKey.Refusal)
  deriving DecidableEq, Repr

/-- The two numbers of the bare pair. -/
def pair? (bytes : List UInt8) : Option (Nat × Nat) := do
  let outer ← Der.single? bytes
  if outer.tag != Der.Tag.sequence then none
  match ← outer.children? with
  | [n, e] => return (← n.natural?, ← e.natural?)
  | _ => none

/-- The key of an element that names its algorithm. -/
def ofElement? (e : Der.Element) : Option SubjectPublicKey := do
  if e.tag != Der.Tag.sequence then none
  match ← e.children? with
  | [algorithm, bits] => return ⟨← Algorithm.ofElement? algorithm, ← bits.bitString?⟩
  | _ => none

/-- The numbers of a key that names its algorithm. Bits that do not fill their octets
are refused before the algorithm is looked at. -/
def numbers (key : SubjectPublicKey) : Except Refusal (Nat × Nat) :=
  if key.bits.unused != 0 then .error .looseBits
  else
    match KeyKind.ofArcs? key.algorithm.arcs with
    | none => .error (.unknownAlgorithm key.algorithm.arcs)
    | some .rsa =>
      match pair? key.bits.octets with
      | some numbers => .ok numbers
      | none => .error .malformed
    | some kind =>
      match kind.check key.algorithm.parameters key.bits.octets with
      | .ok () => .error .foreignKey
      | .error cause => .error (.kind cause)

/-- The RSA key of octets in either form. The bare pair is tried when the other
form fails, and the first failure is the one reported. -/
def read (bytes : List UInt8) : Except Refusal RsaKey :=
  let named : Except Refusal (Nat × Nat) :=
    match (Der.single? bytes).bind ofElement? with
    | some key => key.numbers
    | none => .error .malformed
  let found : Except Refusal (Nat × Nat) :=
    match named, pair? bytes with
    | .error _, some numbers => .ok numbers
    | result, _ => result
  match found with
  | .ok (modulus, exponent) => (RsaKey.ofNats modulus exponent).mapError .numbers
  | .error cause => .error cause

/-- The bare pair of a key's numbers. -/
def pairOctets (key : RsaKey) : List UInt8 :=
  Der.sequenceElement [Der.naturalElement key.modulus, Der.naturalElement key.exponent]

/-- The octets of the RSA algorithm name. -/
def rsaName : List UInt8 :=
  Der.element Der.Tag.objectIdentifier [0x2a, 0x86, 0x48, 0x86, 0xf7, 0x0d, 0x01, 0x01, 0x01]

/-- The octets of a key beside the name of its algorithm. -/
def octets (key : RsaKey) : List UInt8 :=
  Der.sequenceElement
    [Der.sequenceElement [rsaName, Der.element Der.Tag.null []],
      Der.element Der.Tag.bitString (0 :: pairOctets key)]

end SubjectPublicKey

end InstanceLink
