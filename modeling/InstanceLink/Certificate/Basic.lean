import InstanceLink.Certificate.Instant
import InstanceLink.Certificate.Name
import InstanceLink.Key.SubjectPublicKey

/-!
# Certificates

A certificate as read from its octets, and the reader. The whole structure must
be well formed before the version is looked at; versions other than the first and
the third are refused by number.
-/

namespace InstanceLink

/-- The supported versions. -/
inductive CertificateVersion where
  | v1
  | v3
  deriving DecidableEq, Repr

/-- An extension, its value undecoded. -/
structure CertificateExtension where
  kind : List Nat
  critical : Bool
  value : List UInt8
  deriving DecidableEq, Repr

/-- A certificate. -/
structure Certificate where
  version : CertificateVersion
  serial : Int
  /-- The algorithm the issuer signed with. -/
  signature : Algorithm
  /-- The same as it stands beside the signature, where it may differ. -/
  outerSignature : Algorithm
  issuer : RawName
  notBefore : Instant
  notAfter : Instant
  subject : RawName
  /-- The certified key. -/
  key : SubjectPublicKey
  extensions : List CertificateExtension
  /-- The octets the certificate was read from. -/
  der : List UInt8
  deriving DecidableEq

/-- Why some octets or a text are no certificate. -/
inductive CertificateRefusal where
  /-- The octets are not a certificate. -/
  | malformed
  /-- The version number is not a supported one. -/
  | version (number : Nat)
  /-- A text section is framed or encoded wrongly. -/
  | badSection
  /-- No text section holds a certificate. -/
  | noSection
  deriving DecidableEq, Repr

namespace Certificate

/-- An instant from its element. -/
def instant? (e : Der.Element) : Option Instant :=
  if e.tag = Der.Tag.utcTime then Instant.ofShort? e.content
  else if e.tag = Der.Tag.generalizedTime then Instant.ofLong? e.content
  else none

/-- The two instants of a validity. -/
def validity? (e : Der.Element) : Option (Instant × Instant) := do
  if e.tag != Der.Tag.sequence then none
  match ← e.children? with
  | [first, last] => return (← instant? first, ← instant? last)
  | _ => none

/-- An extension from its element. A criticality that is written must be true. -/
def extension? (e : Der.Element) : Option CertificateExtension := do
  if e.tag != Der.Tag.sequence then none
  match ← e.children? with
  | [kind, value] =>
    if value.tag != Der.Tag.octetString then none
    return ⟨← kind.oid?, false, value.content⟩
  | [kind, critical, value] =>
    if critical.tag != Der.Tag.boolean || critical.content != [0xff] then none
    if value.tag != Der.Tag.octetString then none
    return ⟨← kind.oid?, true, value.content⟩
  | _ => none

/-- The extensions inside their explicit element. -/
def extensions? (e : Der.Element) : Option (List CertificateExtension) := do
  match ← e.children? with
  | [inner] =>
    if inner.tag != Der.Tag.sequence then none
    (← inner.children?).mapM extension?
  | _ => none

/-- The version number inside its explicit element: one octet's worth, and never
the default written out. -/
def versionNumber? (e : Der.Element) : Option Nat := do
  match ← e.children? with
  | [inner] =>
    let n ← inner.natural?
    if n = 0 || 255 < n then none else return n
  | _ => none

/-- The optional unique identifiers and extensions at the end. -/
def trailing? (parts : List Der.Element) : Option (List CertificateExtension) :=
  let skip (number : Nat) (parts : List Der.Element) : Option (List Der.Element) :=
    match parts with
    | e :: rest =>
      if e.tag = Der.Tag.context number then (Der.bitString? e.content).map fun _ => rest
      else some (e :: rest)
    | [] => some []
  do
    let parts ← skip 1 parts
    let parts ← skip 2 parts
    match parts with
    | [] => return []
    | [e] => if e.tag = Der.Tag.explicit 3 then extensions? e else none
    | _ => none

/-- The fields between the version and the end. -/
def fields? (der : List UInt8) (outerSignature : Algorithm) (parts : List Der.Element) :
    Option Certificate :=
  match parts with
  | serial :: signature :: issuer :: validity :: subject :: key :: rest => do
    if serial.tag != Der.Tag.integer || !Der.isInteger serial.content then none
    let signature ← Algorithm.ofElement? signature
    let issuer ← RawName.ofElement? issuer
    let (notBefore, notAfter) ← validity? validity
    let subject ← RawName.ofElement? subject
    let key ← SubjectPublicKey.ofElement? key
    let extensions ← trailing? rest
    return ⟨.v3, Der.integerValue serial.content, signature, outerSignature, issuer, notBefore,
      notAfter, subject, key, extensions, der⟩
  | _ => none

/-- Version number and fields of the signed part. -/
def signedPart? (der : List UInt8) (outerSignature : Algorithm) (e : Der.Element) :
    Option (Nat × Certificate) := do
  if e.tag != Der.Tag.sequence then none
  match ← e.children? with
  | first :: rest =>
    if first.tag = Der.Tag.explicit 0 then
      return (← versionNumber? first, ← fields? der outerSignature rest)
    else return (0, ← fields? der outerSignature (first :: rest))
  | [] => none

/-- Version number and fields of a whole certificate. -/
def parts? (der : List UInt8) : Option (Nat × Certificate) := do
  let outer ← Der.single? der
  if outer.tag != Der.Tag.sequence then none
  match ← outer.children? with
  | [signed, algorithm, signature] =>
    let _ ← signature.bitString?
    signedPart? der (← Algorithm.ofElement? algorithm) signed
  | _ => none

/-- The certificate of its octets. -/
def ofDer (der : List UInt8) : Except CertificateRefusal Certificate :=
  match parts? der with
  | none => .error .malformed
  | some (number, certificate) =>
    if number = 0 then .ok { certificate with version := .v1 }
    else if number = 2 then .ok { certificate with version := .v3 }
    else .error (.version number)

end Certificate

end InstanceLink
