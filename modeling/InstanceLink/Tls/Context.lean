import InstanceLink.Connection.Info
import InstanceLink.Tls.Loading

/-!
# Transport contexts

What a secure transport is set up with: one trusted authority, a chain of certificates,
the key behind it, and the fixed demands on the server. A context exists only when the
leading certificate certifies the key. The chain is presented as it was loaded, unless it is a
single certificate: the transport builds the chain of that one itself, from its trust store.
-/

namespace InstanceLink

/-- Versions of the secure transport. -/
inductive TlsVersion where
  | v12
  | v13
  deriving DecidableEq, Repr

/-- The written name of a version. -/
def TlsVersion.name : TlsVersion → String
  | .v12 => "TLSv1_2"
  | .v13 => "TLSv1_3"

/-- How the server's certificate is treated. -/
inductive PeerCheck where
  | required
  | optional
  deriving DecidableEq, Repr

/-- The written name of a treatment. -/
def PeerCheck.name : PeerCheck → String
  | .required => "CERT_REQUIRED"
  | .optional => "CERT_OPTIONAL"

/-- A transport context. -/
structure TlsContext where
  minimumVersion : TlsVersion
  /-- Instances are addressed by number, so host names are not compared. -/
  checksHostname : Bool
  peerCheck : PeerCheck
  /-- The trust store. -/
  trusted : List Certificate
  /-- The chain that was loaded. -/
  chain : List Certificate
  /-- The public half of the key behind the chain. -/
  key : RsaKey
  deriving DecidableEq

namespace TlsContext

/-- The reason why a key does not belong to a leading certificate. -/
def keyRefusal? (leader : Certificate) (key : RsaKey) : Option String :=
  match Strength.rsaNumbers? leader with
  | none => some "NO_CERTIFICATE_ASSIGNED"
  | some numbers =>
    if numbers = (key.modulus, key.exponent) then none else some "KEY_VALUES_MISMATCH"

/-- The context for a bundle and a key. It holds the authority and the chain as their texts are
loaded, and the key must belong to the certificate that was loaded first. -/
def create (info : ConnectionInfo) (key : RsaKey) : Except Fault TlsContext :=
  Except.mapError .transport do
    let trusted ← Loading.trusted (Certificate.rowText [info.caCertificate])
    let chain ← Loading.presented (Certificate.rowText info.certificateChain)
    match chain with
    | [] => throw Strength.unreadableFirst
    | leader :: _ =>
      match keyRefusal? leader key with
      | some reason => throw reason
      | none => return ⟨.v13, false, .required, trusted, chain, key⟩

/-- The trusted certificate that issued a certificate, unless this one is its own issuer. -/
def issuer? (c : TlsContext) (leader : Certificate) : Option Certificate :=
  if leader.isSelfSigned then none
  else c.trusted.find? fun signer => Statement.allSound signer && leader.isIssuedBy signer

/-- The chain that is presented to a server, or the reason why the transport gives up instead: an
issuer that completes a chain must be as strong as the rest of one. -/
def presented (c : TlsContext) : Except String (List Certificate) :=
  match c.chain with
  | [leader] =>
    match c.issuer? leader with
    | none => .ok [leader]
    | some signer =>
      match Strength.refusal? false signer with
      | none => .ok [leader, signer]
      | some reason => .error reason
  | chain => .ok chain

/-- The trusted certificates that are authorities. -/
def authorities (c : TlsContext) : List Certificate := c.trusted.filter Certificate.isAuthority

end TlsContext

end InstanceLink
