import InstanceLink.Connection.Info
import InstanceLink.Proofs.Result

/-!
# Bundles built from loose fields

Loose fields make a bundle exactly when each field makes its part of it and the chain is the row of
certificates that was offered, with the client's own at its head. A bundle therefore has a chain,
and stays as it was built: no assignment to a field is accepted. Whether an address that may be
absent is kept is asked of the value as it was offered, before it is read as a text, so the empty
text is held only for a value of a further type that counts as something and is read as no
character.
-/

namespace InstanceLink

/-- Well-formed bytes hold no character only when there are none. -/
theorem Text.decodeUtf8?_eq_nil {bytes : List UInt8} (h : Text.decodeUtf8? bytes = some []) :
    bytes = [] := by
  have hcons : ∀ (c : Char) (rest : Option (List Char)), rest.map (c :: ·) ≠ some [] := by
    intro c rest
    cases rest <;> simp
  cases bytes with
  | nil => rfl
  | cons a rest =>
    rw [Text.decodeUtf8?.eq_def] at h
    simp only [Option.bind_eq_bind] at h
    split at h
    · exact absurd h (hcons _ _)
    · split at h
      · contradiction
      · repeat' split at h
        all_goals simp [Option.bind_eq_some_iff, hcons] at h

namespace FieldRule

/-- A value that counts as something is read as the empty text only when it is of a further
type: a text or octets that are not blank have a character. -/
theorem text_eq_ok_empty_iff {value : FieldValue} :
    value.isBlank = false ∧ text value = .ok "" ↔
      ∃ other items, value = .other other items ∧ other.isBlank = false ∧ other.text = .ok "" := by
  constructor
  · rintro ⟨hvalue, h⟩
    cases value with
    | text given =>
      cases h
      contradiction
    | bytes given =>
      rw [text] at h
      split at h
      · rename_i cs hdecode
        rw [Except.ok.injEq, String.ofList_eq_empty_iff] at h
        rw [h] at hdecode
        rw [Text.decodeUtf8?_eq_nil hdecode] at hvalue
        contradiction
      · contradiction
    | other other items => exact ⟨other, items, rfl, hvalue, h⟩
    | _ => contradiction
  · rintro ⟨other, items, rfl, hvalue, h⟩
    exact ⟨hvalue, h⟩

/-- A certificate is offered as such. -/
theorem certificate_eq_ok_iff {value : FieldValue} {c : Certificate} :
    certificate value = .ok c ↔ value = .certificate c := by
  cases value <;> simp [certificate]

end FieldRule

namespace Checked

variable {α : Type} {fields : Fields} {name : String} {rule : FieldValue → Except FieldFault α}
  {x : α}

/-- A required field is present and keeps its rule. -/
theorem named_required_eq_ok_iff {fault : FieldFault} :
    named fields name (.error fault) rule = .ok x ↔
      ∃ value, fields.lookup name = some value ∧ rule value = .ok x := by
  unfold named
  cases fields.lookup name with
  | none => simp [Except.mapError]
  | some value => simp [mapError_eq_ok_iff]

/-- An optional field keeps its rule where it is present, and has its default elsewhere. -/
theorem named_optional_eq_ok_iff {absent : α} :
    named fields name (.ok absent) rule = .ok x ↔
      (fields.lookup name = none ∧ absent = x) ∨
        ∃ value, fields.lookup name = some value ∧ rule value = .ok x := by
  unfold named
  cases fields.lookup name with
  | none => simp [Except.mapError]
  | some value => simp [mapError_eq_ok_iff]

/-- Assignments to a record one after the other, each to what the one before it left: the record
in the end, and every outcome. -/
def assignAll (record : α) : List (String × FieldValue) → α × List (Checked Unit)
  | [] => (record, [])
  | (name, value) :: rest =>
    let (record, outcome) := assign record name value
    let (record, outcomes) := assignAll record rest
    (record, outcome :: outcomes)

/-- The refusal of an assignment. -/
def refusedAssignment (a : String × FieldValue) : Checked Unit :=
  .error [⟨[.field a.1], .frozen, a.2⟩]

/-- One assignment to a name without an underscore in front is refused and changes nothing. -/
theorem assign_of_head?_ne {record : α} {value : FieldValue} (h : name.toList.head? ≠ some '_') :
    assign record name value = (record, refusedAssignment (name, value)) := if_neg h

/-- Assignments in a row to such names are refused, every one, and change nothing. -/
theorem assignAll_of_head?_ne {record : α} {row : List (String × FieldValue)}
    (h : ∀ a ∈ row, a.1.toList.head? ≠ some '_') :
    assignAll record row = (record, row.map refusedAssignment) := by
  induction row with
  | nil => rfl
  | cons a rest ih =>
    obtain ⟨ha, hrest⟩ := List.forall_mem_cons.mp h
    rw [assignAll, assign_of_head?_ne ha]
    simp only [ih hrest, List.map_cons]

end Checked

namespace ConnectionInfo

/-- The names of the fields of a bundle. -/
def fieldNames : List String :=
  ["ip_address", "public_ip_address", "psc_dns_name", "instance_uid", "client_certificate",
    "certificate_chain", "ca_certificate"]

/-- No field has a name with an underscore in front. -/
theorem head?_of_mem_fieldNames : ∀ name ∈ fieldNames, name.toList.head? ≠ some '_' := by decide

/-- An optional address is absent for a blank value and else a text, which is not empty. -/
theorem addressRule_eq_ok_iff {value : FieldValue} {address : Option String} :
    addressRule value = .ok address ↔
      if value.isBlank then address = none
      else ∃ s, FieldRule.text value = .ok s ∧ address = some s := by
  unfold addressRule
  split
  · rw [Except.ok.injEq, eq_comm]
  · rw [map_eq_ok_iff]
    simp only [eq_comm (a := address)]

/-- The part of a bundle that a field for an optional address makes. -/
def GivesAddress (fields : Fields) (name : String) (address : Option String) : Prop :=
  (fields.lookup name = none ∧ none = address) ∨
    ∃ value, fields.lookup name = some value ∧ addressRule value = .ok address

/-- The value offered for an address counts as something and is read as the empty text. It is of
a further type: a text, octets, nothing and numbers are not such values. -/
def OffersEmpty (fields : Fields) (name : String) : Prop :=
  ∃ value items, fields.lookup name = some (.other value items) ∧ value.isBlank = false ∧
    value.text = .ok ""

/-- An optional address that was made is the empty text exactly when such a value was offered. -/
theorem GivesAddress.eq_empty_iff {fields : Fields} {name : String} {address : Option String}
    (h : GivesAddress fields name address) : address = some "" ↔ OffersEmpty fields name := by
  rcases h with ⟨hlookup, rfl⟩ | ⟨value, hlookup, hrule⟩
  · simp [OffersEmpty, hlookup]
  · rw [addressRule_eq_ok_iff] at hrule
    have hoffers : OffersEmpty fields name ↔
        value.isBlank = false ∧ FieldRule.text value = .ok "" := by
      rw [FieldRule.text_eq_ok_empty_iff, OffersEmpty, hlookup]
      simp only [Option.some.injEq]
    rw [hoffers]
    split at hrule
    · rename_i hblank
      simp [hrule, hblank]
    · rename_i hblank
      obtain ⟨s, htext, rfl⟩ := hrule
      simp [hblank, htext]

/-- A row is checked to the certificates it is made of, all in their places. -/
theorem rowItems_eq_ok_iff {position : Nat} {items : List FieldValue} {chain : List Certificate} :
    rowItems position items = .ok chain ↔ items = chain.map .certificate := by
  induction items generalizing position chain with
  | nil => cases chain <;> simp [rowItems]
  | cons value rest ih =>
    rw [rowItems, map_eq_ok_iff]
    constructor
    · rintro ⟨⟨c, cs⟩, hboth, rfl⟩
      obtain ⟨hhere, hrest⟩ := Checked.both_eq_ok.mp hboth
      rw [mapError_eq_ok_iff, FieldRule.certificate_eq_ok_iff] at hhere
      rw [hhere, ih.mp hrest, List.map_cons]
    · intro hitems
      cases chain with
      | nil => contradiction
      | cons c cs =>
        obtain ⟨rfl, hrest⟩ := List.cons.inj hitems
        exact ⟨(c, cs), Checked.both_eq_ok.mpr ⟨rfl, ih.mpr hrest⟩, rfl⟩

/-- The chain is a row of certificates. -/
theorem chainField_eq_ok_iff {fields : Fields} {chain : List Certificate} :
    chainField fields = .ok chain ↔
      ∃ value, fields.lookup "certificate_chain" = some value ∧
        value.row? = some (chain.map .certificate) := by
  unfold chainField
  cases fields.lookup "certificate_chain" with
  | none => simp
  | some value =>
    cases hrow : value.row? <;> simp [hrow, mapError_eq_ok_iff, rowItems_eq_ok_iff]

/-- What loose fields are that make a bundle: each makes its part of it, and the chain is the
whole of the row that was offered, with the client's certificate at its head. -/
structure Makes (fields : Fields) (info : ConnectionInfo) : Prop where
  ipAddress : ∃ value, fields.lookup "ip_address" = some value ∧
    FieldRule.text value = .ok info.ipAddress
  publicIpAddress : GivesAddress fields "public_ip_address" info.publicIpAddress
  pscDnsName : GivesAddress fields "psc_dns_name" info.pscDnsName
  instanceUid : ∃ value, fields.lookup "instance_uid" = some value ∧
    FieldRule.text value = .ok info.instanceUid
  clientCertificate : fields.lookup "client_certificate" =
    some (.certificate info.clientCertificate)
  certificateChain : ∃ value, fields.lookup "certificate_chain" = some value ∧
    value.row? = some (info.certificateChain.map .certificate)
  caCertificate : fields.lookup "ca_certificate" = some (.certificate info.caCertificate)

/-- Loose fields make a bundle exactly when each makes its part and the chain is led by the
client's certificate. -/
theorem ofFields_eq_ok_iff {fields : Fields} {info : ConnectionInfo} :
    ofFields fields = .ok info ↔ Makes fields info := by
  unfold ofFields
  rw [bind_eq_ok_iff]
  constructor
  · rintro ⟨⟨⟨⟨ip, pub, psc⟩, uid, client⟩, chain, ca⟩, hparts, hchain⟩
    simp only [Checked.both_eq_ok, Checked.named_required_eq_ok_iff,
      Checked.named_optional_eq_ok_iff, chainField_eq_ok_iff,
      FieldRule.certificate_eq_ok_iff] at hparts
    obtain ⟨⟨⟨hip, hpub, hpsc⟩, huid, client', hclient, rfl⟩, hrow, ca', hca, rfl⟩ := hparts
    dsimp only at hchain
    split at hchain
    · contradiction
    · split at hchain
      · rename_i leader rest hleader
        cases hchain
        exact ⟨hip, hpub, hpsc, huid, hclient, hleader ▸ hrow, hca⟩
      · contradiction
  · rintro ⟨hip, hpub, hpsc, huid, hclient, hrow, hca⟩
    refine ⟨⟨⟨⟨info.ipAddress, info.publicIpAddress, info.pscDnsName⟩, info.instanceUid,
      info.clientCertificate⟩, info.certificateChain, info.caCertificate⟩, ?_, if_pos rfl⟩
    simp only [Checked.both_eq_ok, Checked.named_required_eq_ok_iff,
      Checked.named_optional_eq_ok_iff, chainField_eq_ok_iff, FieldRule.certificate_eq_ok_iff]
    exact ⟨⟨⟨hip, hpub, hpsc⟩, huid, _, hclient, rfl⟩, hrow, _, hca, rfl⟩

/-- The address of a kind as a bundle holds it, empty or not. -/
def storedAddress (info : ConnectionInfo) : AddressKind → Option String
  | .privateIp => some info.ipAddress
  | .publicIp => info.publicIpAddress
  | .psc => info.pscDnsName

/-- The fault of a bundle without an address of a kind. -/
def addressFault (info : ConnectionInfo) (kind : AddressKind) : Fault :=
  .rule ("instance " ++ info.instanceUid ++ " has no " ++ kind.name ++ " address")

/-- Asking for an address gives the one that is held, unless that is absent or empty. -/
theorem addressFor_eq (info : ConnectionInfo) (kind : AddressKind) :
    info.addressFor kind =
      match info.storedAddress kind with
      | none => .error (info.addressFault kind)
      | some address => if address = "" then .error (info.addressFault kind) else .ok address := by
  have hstored : info.address? kind =
      (info.storedAddress kind).filter fun address => !address.isEmpty := by
    cases kind <;> rfl
  rw [addressFor, hstored]
  cases info.storedAddress kind with
  | none => rfl
  | some address =>
    by_cases hempty : address = ""
    · subst hempty
      rfl
    · have hink : address.isEmpty = false :=
        Bool.eq_false_iff.mpr (mt String.isEmpty_iff.mp hempty)
      simp only [Option.filter_some, hink, Bool.not_false, if_true, if_neg hempty]

/-- An address is given when it is held and not empty. -/
theorem addressFor_eq_ok_iff {info : ConnectionInfo} {kind : AddressKind} {address : String} :
    info.addressFor kind = .ok address ↔
      info.storedAddress kind = some address ∧ address ≠ "" := by
  rw [addressFor_eq]
  cases info.storedAddress kind with
  | none => simp
  | some held =>
    dsimp only
    split
    · rename_i hempty
      simp only [reduceCtorEq, Option.some.injEq, false_iff, not_and, not_not]
      rintro rfl
      exact hempty
    · rename_i hempty
      rw [Except.ok.injEq, Option.some.injEq]
      constructor
      · rintro rfl
        exact ⟨rfl, hempty⟩
      · exact And.left

/-- Only an address that is absent or empty is refused. -/
theorem addressFor_eq_error_iff {info : ConnectionInfo} {kind : AddressKind} {fault : Fault} :
    info.addressFor kind = .error fault ↔
      (info.storedAddress kind = none ∨ info.storedAddress kind = some "") ∧
        fault = info.addressFault kind := by
  rw [addressFor_eq]
  cases info.storedAddress kind with
  | none => simp [eq_comm]
  | some held =>
    dsimp only
    split
    · rename_i hempty
      simp [hempty, eq_comm]
    · rename_i hempty
      simp [hempty]

/-- What is known of every bundle that loose fields of any values make. Its chain is the row of
certificates that was offered, in its order and length, and a list is its own row; it is not empty
and is led by the client's certificate, which is the one that was offered; and an address that may
be absent is not the empty text, unless the value offered for it counts as something and is read as
that, which a text and octets never do. Assignments to its fields, as many as there are and whatever
their values, are all refused and leave the bundle they found. Asking it for an address of any kind
gives the one it holds, or the fault that says there is none exactly when that is absent or
empty. -/
theorem construction_laws {fields : Fields} {info : ConnectionInfo}
    (h : ofFields fields = .ok info) :
    (info.certificateChain ≠ [] ∧
      info.certificateChain.head? = some info.clientCertificate ∧
      fields.lookup "client_certificate" = some (.certificate info.clientCertificate) ∧
      (∃ value, fields.lookup "certificate_chain" = some value ∧
        value.row? = some (info.certificateChain.map .certificate)) ∧
      (∀ items, fields.lookup "certificate_chain" = some (.list items) →
        items = info.certificateChain.map .certificate) ∧
      (info.publicIpAddress = some "" ↔ OffersEmpty fields "public_ip_address") ∧
      (info.pscDnsName = some "" ↔ OffersEmpty fields "psc_dns_name")) ∧
    (∀ row : List (String × FieldValue), (∀ a ∈ row, a.1 ∈ fieldNames) →
      Checked.assignAll info row = (info, row.map Checked.refusedAssignment)) ∧
    ∀ kind,
      (∀ address, info.addressFor kind = .ok address ↔
        info.storedAddress kind = some address ∧ address ≠ "") ∧
      ∀ fault, info.addressFor kind = .error fault ↔
        (info.storedAddress kind = none ∨ info.storedAddress kind = some "") ∧
          fault = info.addressFault kind := by
  have hmakes := ofFields_eq_ok_iff.mp h
  refine ⟨⟨List.cons_ne_nil _ _, rfl, hmakes.clientCertificate, hmakes.certificateChain, ?_,
    hmakes.publicIpAddress.eq_empty_iff, hmakes.pscDnsName.eq_empty_iff⟩, ?_, ?_⟩
  · intro items hitems
    obtain ⟨value, hvalue, hrow⟩ := hmakes.certificateChain
    rw [hitems, Option.some.injEq] at hvalue
    subst hvalue
    exact Option.some.inj hrow
  · intro row hrow
    exact Checked.assignAll_of_head?_ne fun a ha => head?_of_mem_fieldNames a.1 (hrow a ha)
  · exact fun kind => ⟨fun _ => addressFor_eq_ok_iff, fun _ => addressFor_eq_error_iff⟩

/-- A certificate without names and without a key. -/
def bareCertificate (serial : Int) : Certificate :=
  ⟨.v3, serial, ⟨[], none⟩, ⟨[], none⟩, [], ⟨2024, 1, 1, 0, 0, 0⟩, ⟨2034, 1, 1, 0, 0, 0⟩, [],
    ⟨⟨[], none⟩, ⟨0, []⟩⟩, [], []⟩

/-- Fields of many types: octets for a text, a truth value and no octets for optional addresses,
and a chain of three. -/
def mixedFields : Fields :=
  [("ip_address", .bytes []), ("public_ip_address", .bool false), ("psc_dns_name", .bytes [0x70]),
    ("instance_uid", .text "abc123"), ("client_certificate", .certificate (bareCertificate 2)),
    ("certificate_chain", .list [.certificate (bareCertificate 2), .certificate (bareCertificate 1),
      .certificate (bareCertificate 2)]),
    ("ca_certificate", .certificate (bareCertificate 1))]

/-- The bundle of these fields keeps the chain in its order, refuses to be changed, and has no
address but the last. -/
theorem construction_laws_mixed :
    ∃ info, ofFields mixedFields = .ok info ∧
      info.certificateChain = [bareCertificate 2, bareCertificate 1, bareCertificate 2] ∧
      Checked.assignAll info [("psc_dns_name", .null), ("certificate_chain", .list [])] =
        (info, [.error [⟨[.field "psc_dns_name"], .frozen, .null⟩],
          .error [⟨[.field "certificate_chain"], .frozen, .list []⟩]]) ∧
      info.addressFor .privateIp = .error (.rule "instance abc123 has no PRIVATE address") ∧
      info.addressFor .psc = .ok "p" := by
  have hfields : ofFields mixedFields = .ok ⟨"", none, some "p", "abc123", bareCertificate 2,
      [bareCertificate 1, bareCertificate 2], bareCertificate 1⟩ := rfl
  obtain ⟨-, hfrozen, haddress⟩ := construction_laws hfields
  exact ⟨_, hfields, rfl, hfrozen _ (by decide),
    ((haddress .privateIp).2 _).mpr ⟨.inr rfl, rfl⟩, ((haddress .psc).1 _).mpr ⟨rfl, by decide⟩⟩

/-- A member of an enumeration that has the empty text for its value: it counts as something, as
every member does, and is read as its value. -/
def unnamedMember : OtherValue :=
  ⟨"Address", "<Address.UNNAMED: ''>", "Address.UNNAMED", false, .ok "", .error .notBool,
    .error .unreadableInt⟩

/-- A bundle built with it for an address that may be absent holds the empty text there, and is
asked for that address in vain. -/
theorem unnamedMember_stored :
    ∃ fields info, ofFields fields = .ok info ∧
      fields.lookup "public_ip_address" = some (.other unnamedMember none) ∧
      info.publicIpAddress = some "" ∧
      info.addressFor .publicIp = .error (info.addressFault .publicIp) := by
  refine ⟨[("ip_address", .text "10.0.0.5"), ("public_ip_address", .other unnamedMember none),
    ("instance_uid", .text "abc123"), ("client_certificate", .certificate (bareCertificate 2)),
    ("certificate_chain", .list [.certificate (bareCertificate 2)]),
    ("ca_certificate", .certificate (bareCertificate 1))],
    ⟨"10.0.0.5", some "", none, "abc123", bareCertificate 2, [], bareCertificate 1⟩, rfl, rfl,
    rfl, rfl⟩

end ConnectionInfo

end InstanceLink
