import InstanceLink.Certificate.Reader
import InstanceLink.Tls.Strength

/-!
# Loading certificates

A secure transport takes its certificates from text, section by section. A text to trust must hold
certificates that can be read; a text to present is judged one certificate after the other, and the
first refusal stands for all of it.
-/

namespace InstanceLink

/-- The text of a row of certificates, one section behind the other. -/
def Certificate.rowText (row : List Certificate) : String :=
  String.join (row.map Certificate.sectionText)

namespace Loading

/-- The octets of the certificates of a text; sections with other labels do not count. -/
def entries? (text : String) : Option (List (List UInt8)) :=
  (TextSection.read? (Text.encodeUtf8 text.toList)).map fun sections =>
    (sections.filter fun s => Certificate.sectionLabels.contains s.label).map TextSection.content

/-- A certificate to trust. -/
def trustedCertificate? (octets : List UInt8) : Option Certificate :=
  (Certificate.ofDer octets).toOption.filter Certificate.isReadable

/-- The certificates to trust of a text, which must hold some. -/
def trusted (text : String) : Except String (List Certificate) :=
  match (entries? text).bind (List.mapM trustedCertificate?) with
  | some (c :: rest) => .ok (c :: rest)
  | _ => .error Strength.unreadableTrusted

/-- A certificate to present, by its place in the chain. -/
def presentedCertificate (first : Bool) (octets : List UInt8) : Except String Certificate :=
  match Certificate.ofDer octets with
  | .error _ => .error (if first then Strength.unreadableFirst else Strength.unreadableOther)
  | .ok c =>
    match Strength.refusal? first c with
    | some reason => .error reason
    | none => .ok c

/-- The certificates to present of some entries, from the start of the chain or further on. -/
def presentedFrom (first : Bool) : List (List UInt8) → Except String (List Certificate)
  | [] => .ok []
  | octets :: rest => do
    let c ← presentedCertificate first octets
    let others ← presentedFrom false rest
    return c :: others

/-- The chain to present of a text. -/
def presented (text : String) : Except String (List Certificate) :=
  match entries? text with
  | some entries => presentedFrom true entries
  | none => .error Strength.unreadableFirst

end Loading

end InstanceLink
