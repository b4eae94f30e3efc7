import InstanceLink.Trust.Authority

/-!
# Strength of presented certificates

What a secure transport demands of the certificates it presents: certificates it can
read, with keys and digests worth 112 bits. The first certificate and the ones behind
it are refused with different reasons, and the first must also certify a key of a
kind that can be presented and make sound statements only.
-/

namespace InstanceLink.Strength

/-- The reason to refuse a trusted certificate that cannot be read. -/
def unreadableTrusted : String :=
  "no start line: cadata does not contain a certificate (_ssl.c:4032)"

/-- The reason to refuse a first certificate that cannot be read. -/
def unreadableFirst : String := "[SSL] PEM lib (_ssl.c:3917)"

/-- The reason to refuse another certificate that cannot be read. -/
def unreadableOther : String := "[PEM] ASN1 lib (_ssl.c:3917)"

/-- The RSA numbers of a certified key. -/
def rsaNumbers? (c : Certificate) : Option (Nat × Nat) := do
  let key ← TransportKey.of? c.key
  if key.family = .rsa then key.numbers else none

/-- Whether the certified key is too weak; one that cannot be read is. -/
def isWeakKey (c : Certificate) : Bool := !(TransportKey.of? c.key).any TransportKey.isStrong

/-- Whether the signature uses a digest that is too weak; a signature by the key
itself does not count. -/
def isWeakSignature (c : Certificate) : Bool :=
  !c.isSelfSigned && !SignatureStrength.isStrongAlgorithm c.outerSignature

/-- Whether the certified key is of a kind that cannot be presented. -/
def isUnknownKind (c : Certificate) : Bool :=
  !(TransportKey.of? c.key).all TransportKey.isPresentable

/-- The reason to refuse a certificate, by its place in the chain. -/
def refusal? (first : Bool) (c : Certificate) : Option String :=
  if !c.isReadable then some (if first then unreadableFirst else unreadableOther)
  else if isWeakKey c then some (if first then "EE_KEY_TOO_SMALL" else "CA_KEY_TOO_SMALL")
  else if isWeakSignature c then some "CA_MD_TOO_WEAK"
  else if first && isUnknownKind c then some "UNKNOWN_CERTIFICATE_TYPE"
  else if first && !Statement.allSound c then some "INVALID_CERTIFICATE"
  else none

end InstanceLink.Strength
