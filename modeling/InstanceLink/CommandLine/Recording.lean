import InstanceLink.CommandLine.Run
import InstanceLink.Json.Reader
import InstanceLink.Key.Private

/-!
# Recorded exchanges

What the outside of a run gives, written as one JSON object: a private key under
`key`, and under `metadata` and `certificate` what the two calls are answered, one
answer or a list of answers in turn. An answer with a `status` is an error answer.
-/

namespace InstanceLink.CommandLine.Recording

/-- The text of a field; an absent one is empty. -/
def text (j : Json) (name : String) : String := ((j.field? name).bind Json.text?).getD ""

/-- The metadata that an answer holds. -/
def metadata (j : Json) : MetadataResponse :=
  ⟨text j "ip_address", text j "public_ip_address", text j "psc_dns_name", text j "instance_uid"⟩

/-- The certificates that an answer holds. -/
def certificates (j : Json) : CertificateResponse :=
  ⟨((j.field? "pem_certificate_chain").getD .null).items.filterMap Json.text?, text j "ca_cert"⟩

/-- One recorded answer. -/
def behaviour {α : Type} (answer : Json → α) (j : Json) : Behaviour α :=
  match StatusCode.ofName? (text j "status") with
  | some status => .reply (.error (.call (CallError.ofStatus status (text j "message"))))
  | none => .reply (.ok (answer j))

/-- The answers of one call. A call without any is met with silence. -/
def behaviours {α : Type} (answer : Json → α) : Option Json → List (Behaviour α)
  | some (.list rows) => rows.map (behaviour answer)
  | some j => [behaviour answer j]
  | none => []

/-- The wording for a text that is no recorded exchange. -/
def unreadableMessage : String := "the exchange with the Admin API is no JSON object"

/-- The wording for an exchange without a key. -/
def keyMissingMessage : String := "the exchange holds no private key"

/-- The admin client of an exchange. -/
def admin (j : Json) : AdminClient :=
  ⟨behaviours metadata (j.field? "metadata"), behaviours certificates (j.field? "certificate"),
    none⟩

/-- The key of an exchange. -/
def key (j : Json) : ClientKey :=
  match PrivateKey.publicHalf? (text j "key") with
  | some key => .ok key
  | none => .error (.rule keyMissingMessage)

/-- The outside that a recorded exchange stands for. -/
def read (recorded : String) (version? : Option String) : Outside :=
  match Json.read? recorded with
  | some (.object fields) => ⟨.ok (admin (.object fields)), key (.object fields), version?⟩
  | _ => ⟨.error (.rule unreadableMessage), .error (.rule keyMissingMessage), version?⟩

/-- A text that is no JSON gives no admin client. -/
theorem read_of_unreadable {recorded : String} (h : Json.read? recorded = none)
    (version? : Option String) :
    (read recorded version?).admin = .error (.rule unreadableMessage) := by
  simp [read, h]

end InstanceLink.CommandLine.Recording
