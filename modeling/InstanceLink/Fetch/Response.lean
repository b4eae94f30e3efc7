import InstanceLink.Failure.Fault

/-!
# Requests and responses

The two calls of a fetch: what they ask and what they are answered. The metadata
call names the instance; the certificate call names its cluster and carries the
public key, the lifetime and the wish to exchange metadata.
-/

namespace InstanceLink

/-- The two calls of a fetch. -/
inductive Side where
  | metadata
  | certificate
  deriving DecidableEq, Repr

/-- The answer of the metadata call. -/
structure MetadataResponse where
  ipAddress : String
  publicIpAddress : String
  pscDnsName : String
  instanceUid : String
  deriving DecidableEq, Repr, Inhabited

/-- The answer of the certificate call: texts, leaf first, and the authority. -/
structure CertificateResponse where
  chain : List String
  authority : String
  deriving DecidableEq, Repr, Inhabited

/-- A request to the Admin API. -/
inductive Request where
  | metadata (parent : String)
  | certificate (parent publicKey : String) (seconds : Nat) (exchangeMetadata : Bool)
  deriving DecidableEq, Repr

/-- The call a request belongs to. -/
def Request.side : Request → Side
  | .metadata _ => .metadata
  | .certificate .. => .certificate

/-- The lifetime asked for every client certificate, in seconds. -/
def certificateSeconds : Nat := 3600

/-- A private key as a fetch sees it: its public half, or the fault that asking for
it raises. -/
abbrev ClientKey := Except Fault RsaKey

/-- The request of a metadata call. -/
def metadataRequest (name : InstanceName) : Request := .metadata name.text

/-- The request of a certificate call, or the fault that building it raises. -/
def certificateRequest (name : InstanceName) (key : ClientKey) : Except Fault Request :=
  key.map fun k => .certificate name.clusterName (KeyBlock.write k) certificateSeconds true

/-- A reply of the Admin API to one of the calls. -/
inductive Reply where
  | metadata (reply : Except Fault MetadataResponse)
  | certificate (reply : Except Fault CertificateResponse)

/-- The call a reply belongs to. -/
def Reply.side : Reply → Side
  | .metadata _ => .metadata
  | .certificate _ => .certificate

end InstanceLink
