import InstanceLink.Trust.Key
import InstanceLink.Trust.Statement

/-!
# Authorities

Whether a trust store can read a certificate, and whether it counts it as an
authority. A certificate that restricts the use of its key must allow signing
certificates; one that states its constraints is what it states; a self-signed
certificate of the first version and one that allows signing are authorities without
a statement. A certificate with an unsound statement is none.
-/

namespace InstanceLink.Certificate

/-- Whether a trust store can read a certificate: both names, and the parameters of
its algorithms where these may be anything. -/
def isReadable (c : Certificate) : Bool :=
  StoreName.isReadable c.subject && StoreName.isReadable c.issuer &&
    [c.signature, c.outerSignature, c.key.algorithm].all fun a =>
      a.parameters.all Statement.isPlausible

/-- The first directory name among names of several kinds. -/
def firstDirectoryName? (e : Der.Element) : Option RawName := do
  let directory ← (← e.children?).find? fun name => name.tag = Der.Tag.explicit 4
  match ← directory.children? with
  | [name] => StoreName.ofElement? name
  | _ => none

/-- Whether what a certificate says of the key that signed it fits a signer: the identifier of the
signer's key, its serial, its issuer. -/
def namesKeyOf (c signer : Certificate) : Bool :=
  match (Statement.find? c Statement.authorityKeyKind).bind Der.Element.children? with
  | none => true
  | some parts =>
    let part (tag : Nat) : Option Der.Element := parts.find? fun e => e.tag = tag
    let signerKey := Statement.find? signer Statement.subjectKeyKind
    let sameKey :=
      match part (Der.Tag.context 0), signerKey with
      | some key, some own => key.content = own.content
      | _, _ => true
    let issuerName := (part (Der.Tag.explicit 1)).bind firstDirectoryName?
    sameKey &&
      (part (Der.Tag.context 2)).all (fun e => Der.integerValue e.content = signer.serial) &&
      issuerName.all fun name => StoreName.same name signer.issuer

/-- Whether a certificate names another as its issuer, names its key, and is signed with an
algorithm of that key. -/
def isIssuedBy (c signer : Certificate) : Bool :=
  StoreName.same signer.subject c.issuer && c.namesKeyOf signer &&
    (TransportKey.of? signer.key).any fun key => SignatureStrength.isMadeBy c.signature key.family

/-- Whether a certificate is its own issuer. -/
def isSelfSigned (c : Certificate) : Bool := c.isIssuedBy c

/-- Whether the use of the key, where it is restricted, allows signing certificates. -/
def allowsSigning (c : Certificate) : Bool :=
  (Statement.find? c Statement.usageKind).all fun e => Statement.firstOctet e / 4 % 2 = 1

/-- Whether the older form of use names an authority of any kind. -/
def isOlderAuthority (c : Certificate) : Bool :=
  (Statement.find? c Statement.olderUsageKind).any fun e => Statement.firstOctet e % 8 != 0

/-- Whether a trust store counts a certificate as an authority. -/
def isAuthority (c : Certificate) : Bool :=
  Statement.allSound c && c.allowsSigning &&
    match Statement.find? c Statement.constraintsKind with
    | some constraints => Statement.statesAuthority constraints
    | none =>
      (c.version = .v1 && c.isSelfSigned) ||
        (Statement.find? c Statement.usageKind).isSome || c.isOlderAuthority

/-- A stated constraint decides, whatever else speaks for an authority. -/
theorem isAuthority_of_constraints {c : Certificate} {constraints : Der.Element}
    (stated : Statement.find? c Statement.constraintsKind = some constraints) :
    c.isAuthority =
      (Statement.allSound c && c.allowsSigning && Statement.statesAuthority constraints) := by
  simp [isAuthority, stated]

end InstanceLink.Certificate
