import InstanceLink.Certificate.Basic
import InstanceLink.Certificate.Section

/-!
# Reading certificates

A certificate comes as octets or as a text section; the text form is recognised
by its first bytes alone, ASCII white space aside.
-/

namespace InstanceLink

/-- The wording of a refusal. The version is reported as it is; every other cause
stands behind a common phrase. -/
def CertificateRefusal.message : CertificateRefusal → String
  | .malformed => "failed to parse X.509 certificate: error parsing asn1 value"
  | .badSection => "failed to parse X.509 certificate: malformed text section"
  | .noSection => "failed to parse X.509 certificate: no certificate section"
  | .version number => toString number ++ " is not a valid X509 version"

namespace Certificate

/-- Whether bytes start like a text section, after ASCII white space. -/
def looksLikeText (bytes : List UInt8) : Bool :=
  let space : UInt8 → Bool := fun b => (9 ≤ b.toNat && b.toNat ≤ 13) || b.toNat = 32
  (TextSection.plainBytes "-----BEGIN").isPrefixOf (bytes.dropWhile space)

/-- The labels of certificate sections. -/
def sectionLabels : List String := ["CERTIFICATE", "X509 CERTIFICATE"]

/-- The certificate of the first section that is labelled as one. -/
def ofText (bytes : List UInt8) : Except CertificateRefusal Certificate :=
  match TextSection.read? bytes with
  | none => .error .badSection
  | some sections =>
    match sections.find? fun s => sectionLabels.contains s.label with
    | some s => ofDer s.content
    | none => .error .noSection

/-- The certificate of some bytes in either form. -/
def read (bytes : List UInt8) : Except CertificateRefusal Certificate :=
  if looksLikeText bytes then ofText bytes else ofDer bytes

/-- The certificate of a text. -/
def readText (s : String) : Except CertificateRefusal Certificate :=
  read (Text.encodeUtf8 s.toList)

/-- The text section of a certificate. -/
def sectionText (c : Certificate) : String := (TextSection.mk "CERTIFICATE" c.der).text

/-- Octets that do not look like text are read as they are. -/
theorem read_of_not_text {bytes : List UInt8} (h : looksLikeText bytes = false) :
    read bytes = ofDer bytes := by
  simp [read, h]

end Certificate

end InstanceLink
