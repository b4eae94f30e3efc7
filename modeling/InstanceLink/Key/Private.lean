import InstanceLink.Certificate.Section
import InstanceLink.Key.SubjectPublicKey

/-!
# Private keys

The public half of an RSA private key that is given as a text section.
-/

namespace InstanceLink.PrivateKey

/-- The label of a private key's section. -/
def sectionLabel : String := "PRIVATE KEY"

/-- Modulus and exponent of the inner numbers of a private key. -/
def innerPair? (octets : List UInt8) : Option (Nat × Nat) := do
  let inner ← Der.single? octets
  match ← inner.children? with
  | _ :: modulus :: exponent :: _ => return (← modulus.natural?, ← exponent.natural?)
  | _ => none

/-- Modulus and exponent of a private key beside the name of its algorithm. -/
def pair? (octets : List UInt8) : Option (Nat × Nat) := do
  let outer ← Der.single? octets
  match ← outer.children? with
  | _ :: _ :: key :: _ => innerPair? key.content
  | _ => none

/-- The public half of a private key's text. -/
def publicHalf? (s : String) : Option RsaKey := do
  let sections ← TextSection.read? (Text.encodeUtf8 s.toList)
  let part ← sections.find? fun part => part.label = sectionLabel
  let (modulus, exponent) ← pair? part.content
  (RsaKey.ofNats modulus exponent).toOption

end InstanceLink.PrivateKey
