import InstanceLink.Failure.Fault
import InstanceLink.Field.Check
import InstanceLink.Field.Rule

/-!
# Connection bundles

Everything needed to open a mutually authenticated connection: addresses, the
client's certificate with the chain it leads, and the authority of the instance.
The chain is held as its leader and the rest, so it is never empty and always
starts with the client's certificate. Bundles cannot be changed.
-/

namespace InstanceLink

/-- The kinds of addresses of an instance. -/
inductive AddressKind where
  | privateIp
  | publicIp
  | psc
  deriving DecidableEq, Repr

/-- The written name of a kind of address. -/
def AddressKind.name : AddressKind → String
  | .privateIp => "PRIVATE"
  | .publicIp => "PUBLIC"
  | .psc => "PSC"

/-- A connection bundle. -/
structure ConnectionInfo where
  ipAddress : String
  publicIpAddress : Option String
  pscDnsName : Option String
  instanceUid : String
  clientCertificate : Certificate
  /-- The chain behind the client's certificate. -/
  chainRest : List Certificate
  caCertificate : Certificate
  deriving DecidableEq

namespace ConnectionInfo

/-- The type's name in reports. -/
def title : String := "ConnectionInfo"

/-- The whole chain, the client's certificate first. -/
def certificateChain (info : ConnectionInfo) : List Certificate :=
  info.clientCertificate :: info.chainRest

/-- The client's certificate leads the chain. -/
theorem head?_certificateChain (info : ConnectionInfo) :
    info.certificateChain.head? = some info.clientCertificate := rfl

/-- An optional address: absent when nothing worth keeping is given. -/
def addressRule (value : FieldValue) : Except FieldFault (Option String) :=
  if value.isBlank then .ok none else (FieldRule.text value).map some

/-- The certificates of a row, every fault with its position. -/
def rowItems (position : Nat) : List FieldValue → Checked (List Certificate)
  | [] => .ok []
  | value :: rest =>
    let here : Checked Certificate :=
      (FieldRule.certificate value).mapError fun fault => [⟨[.item position], fault, value⟩]
    (Checked.both here (rowItems (position + 1) rest)).map fun (c, cs) => c :: cs

/-- The field of the chain. -/
def chainField (fields : Fields) : Checked (List Certificate) :=
  let here : FieldStep := .field "certificate_chain"
  match fields.lookup "certificate_chain" with
  | none => .error [⟨[here], .missing, .map fields⟩]
  | some value =>
    match value.row? with
    | some items =>
      (rowItems 0 items).mapError fun errors => errors.map (FieldError.within here)
    | none => .error [⟨[here], .notRow, value⟩]

/-- The bundle of loose fields. When all fields are sound the chain must not be
empty and must start with the client's certificate. -/
def ofFields (fields : Fields) : Checked ConnectionInfo := do
  let required {α : Type} (name : String) (rule : FieldValue → Except FieldFault α) :=
    Checked.named fields name (.error .missing) rule
  let optional (name : String) := Checked.named fields name (.ok none) addressRule
  let addresses := Checked.both (required "ip_address" FieldRule.text)
    (Checked.both (optional "public_ip_address") (optional "psc_dns_name"))
  let identity := Checked.both (required "instance_uid" FieldRule.text)
    (required "client_certificate" FieldRule.certificate)
  let trust := Checked.both (chainField fields)
    (required "ca_certificate" FieldRule.certificate)
  let (((ip, pub, psc), uid, client), chain, ca) ←
    Checked.both (Checked.both addresses identity) trust
  match chain with
  | [] => Checked.whole fields "certificate chain must not be empty"
  | leader :: rest =>
    if leader = client then return ⟨ip, pub, psc, uid, client, rest, ca⟩
    else Checked.whole fields "client certificate must be the first element of the chain"

/-- The stored address of a kind; an empty one counts as absent. -/
def address? (info : ConnectionInfo) (kind : AddressKind) : Option String :=
  let stored :=
    match kind with
    | .privateIp => some info.ipAddress
    | .publicIp => info.publicIpAddress
    | .psc => info.pscDnsName
  stored.filter fun address => !address.isEmpty

/-- The address of a kind, or the fault that says there is none. -/
def addressFor (info : ConnectionInfo) (kind : AddressKind) : Except Fault String :=
  match info.address? kind with
  | some address => .ok address
  | none =>
    .error (.rule ("instance " ++ info.instanceUid ++ " has no " ++ kind.name ++ " address"))

end ConnectionInfo

/-- An instant that can be asked for: the year zero cannot. -/
def Instant.readable (i : Instant) : Except Fault Instant :=
  if i.year = 0 then .error .yearZero else .ok i

/-- The decoded name of a subject or issuer as text. -/
def RawName.readable (name : RawName) : Except Fault String :=
  ((DistinguishedName.ofRaw name).map DistinguishedName.text).mapError .distinguishedName

/-- When a bundle's client certificate expires. -/
def ConnectionInfo.expiration (info : ConnectionInfo) : Except Fault Instant :=
  info.clientCertificate.notAfter.readable

end InstanceLink
