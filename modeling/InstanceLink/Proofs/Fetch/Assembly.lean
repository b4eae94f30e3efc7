import InstanceLink.Fetch.Bundle
import InstanceLink.Proofs.Result

/-!
# Assembling two answers

Assembling takes the whole chain or nothing: a bundle is given exactly when the chain
is not empty and every text of it, and the authority, is a certificate. The bundle
then holds the certificates of those texts, each in its place, and passes the checks of
a bundle built from loose fields.
-/

namespace InstanceLink

/-- A text gives the certificate it is read as. -/
theorem parsedCertificate_eq_ok_iff {s : String} {certificate : Certificate} :
    parsedCertificate s = .ok certificate ↔ Certificate.readText s = .ok certificate := by
  unfold parsedCertificate
  cases Certificate.readText s <;> simp [Except.mapError]

/-- A text that is no certificate is refused as such. -/
theorem parsedCertificate_eq_error_iff {s : String} {fault : Fault} :
    parsedCertificate s = .error fault ↔
      ∃ cause, Certificate.readText s = .error cause ∧ fault = .certificate cause := by
  unfold parsedCertificate
  cases Certificate.readText s <;> simp [Except.mapError, eq_comm]

/-- An optional address is kept as it is, but for the empty text. -/
theorem presentText_eq (s : String) : presentText s = if s = "" then none else some s := by
  unfold presentText
  by_cases h : s = ""
  · rw [if_pos h, h]
    rfl
  · rw [if_neg h, if_neg (by rwa [String.isEmpty_iff])]

namespace ConnectionInfo

/-- The loose fields that an answer and the certificates read from the other make. -/
def answeredFields (a : MetadataResponse) (leader : Certificate) (chain : List Certificate)
    (authority : Certificate) : Fields :=
  [("ip_address", .text a.ipAddress), ("public_ip_address", .text a.publicIpAddress),
    ("psc_dns_name", .text a.pscDnsName), ("instance_uid", .text a.instanceUid),
    ("client_certificate", .certificate leader),
    ("certificate_chain", .list (chain.map .certificate)),
    ("ca_certificate", .certificate authority)]

/-- A row of certificates is checked to itself. -/
theorem rowItems_certificates (position : Nat) (chain : List Certificate) :
    rowItems position (chain.map .certificate) = .ok chain := by
  induction chain generalizing position with
  | nil => rfl
  | cons certificate rest ih =>
    rw [List.map_cons, rowItems, ih]
    rfl

/-- A text offered as an optional address is absent when empty. -/
theorem addressRule_text (s : String) : addressRule (.text s) = .ok (presentText s) := by
  cases h : s.isEmpty <;>
    simp [addressRule, presentText, FieldValue.isBlank, FieldRule.text, Except.map, h]

/-- A field that is present and keeps its rule is checked to what the rule gives. -/
theorem named_of_lookup {α : Type} {fields : Fields} {name : String}
    {absent : Except FieldFault α} {rule : FieldValue → Except FieldFault α} {x : α}
    (value : FieldValue) (hl : fields.lookup name = some value) (hr : rule value = .ok x) :
    Checked.named fields name absent rule = .ok x := by
  simp only [Checked.named, hl, hr]
  rfl

/-- The checks of a bundle pass on an answer's texts and on a chain of certificates that
its leader starts. -/
theorem ofFields_answeredFields (a : MetadataResponse) (leader : Certificate)
    (rest : List Certificate) (authority : Certificate) :
    ofFields (answeredFields a leader (leader :: rest) authority) =
      .ok ⟨a.ipAddress, presentText a.publicIpAddress, presentText a.pscDnsName, a.instanceUid,
        leader, rest, authority⟩ := by
  generalize hf : answeredFields a leader (leader :: rest) authority = fields
  have hip : Checked.named fields "ip_address" (.error .missing) FieldRule.text =
      .ok a.ipAddress := named_of_lookup (.text a.ipAddress) (by rw [← hf]; rfl) rfl
  have hpublic : Checked.named fields "public_ip_address" (.ok none) addressRule =
      .ok (presentText a.publicIpAddress) :=
    named_of_lookup _ (by rw [← hf]; rfl) (addressRule_text _)
  have hpsc : Checked.named fields "psc_dns_name" (.ok none) addressRule =
      .ok (presentText a.pscDnsName) :=
    named_of_lookup _ (by rw [← hf]; rfl) (addressRule_text _)
  have huid : Checked.named fields "instance_uid" (.error .missing) FieldRule.text =
      .ok a.instanceUid := named_of_lookup (.text a.instanceUid) (by rw [← hf]; rfl) rfl
  have hclient : Checked.named fields "client_certificate" (.error .missing)
      FieldRule.certificate = .ok leader :=
    named_of_lookup (.certificate leader) (by rw [← hf]; rfl) rfl
  have hca : Checked.named fields "ca_certificate" (.error .missing)
      FieldRule.certificate = .ok authority :=
    named_of_lookup (.certificate authority) (by rw [← hf]; rfl) rfl
  have hl : fields.lookup "certificate_chain" =
      some (.list ((leader :: rest).map .certificate)) := by rw [← hf]; rfl
  have hchain : chainField fields = .ok (leader :: rest) := by
    simp only [chainField, hl, FieldValue.row?, rowItems_certificates]
    rfl
  simp only [ofFields, hip, hpublic, hpsc, huid, hclient, hca, hchain, Checked.both, bind,
    Except.bind, if_pos]
  rfl

/-- What a bundle takes from two answers: the certificates of the chain's texts in
their places, the first of them as the client's own, the authority, and the addresses
and the identity as they were answered, an empty optional address as none. It passes the
checks of a bundle built from loose fields. -/
structure Reflects (info : ConnectionInfo) (a : MetadataResponse)
    (b : CertificateResponse) : Prop where
  chain : List.Forall₂ (fun text certificate => Certificate.readText text = .ok certificate)
    b.chain info.certificateChain
  leader : info.certificateChain[0]? = some info.clientCertificate
  authority : Certificate.readText b.authority = .ok info.caCertificate
  ipAddress : info.ipAddress = a.ipAddress
  publicIpAddress : info.publicIpAddress =
    if a.publicIpAddress = "" then none else some a.publicIpAddress
  pscDnsName : info.pscDnsName = if a.pscDnsName = "" then none else some a.pscDnsName
  instanceUid : info.instanceUid = a.instanceUid
  checked : ofFields (answeredFields a info.clientCertificate info.certificateChain
    info.caCertificate) = .ok info

end ConnectionInfo

/-- Assembling ends in one of three ways: a text of the chain, or the authority, is
refused; the chain is empty; or there is a bundle that reflects both answers. -/
theorem assemble_cases (a : MetadataResponse) (b : CertificateResponse) :
    (∃ text ∈ b.chain ++ [b.authority], ∃ cause, Certificate.readText text = .error cause ∧
        assemble a b = .error (.certificate cause)) ∨
      (b.chain = [] ∧ assemble a b = .error .emptyChain) ∨
      ∃ info, assemble a b = .ok info ∧ info.Reflects a b := by
  unfold assemble
  cases hc : b.chain.mapM parsedCertificate with
  | error fault =>
    obtain ⟨text, ht, he⟩ := mapM_error hc
    obtain ⟨cause, hr, rfl⟩ := parsedCertificate_eq_error_iff.mp he
    exact .inl ⟨text, List.mem_append_left _ ht, cause, hr, rfl⟩
  | ok chain =>
    have hrow := mapM_eq_ok_iff.mp hc
    simp only [parsedCertificate_eq_ok_iff] at hrow
    cases chain with
    | nil => exact .inr (.inl ⟨List.forall₂_nil_right_iff.mp hrow, rfl⟩)
    | cons leader rest =>
      cases ha : parsedCertificate b.authority with
      | error fault =>
        obtain ⟨cause, hr, rfl⟩ := parsedCertificate_eq_error_iff.mp ha
        exact .inl ⟨b.authority, by simp, cause, hr, rfl⟩
      | ok authority =>
        exact .inr (.inr ⟨_, rfl, hrow, rfl, parsedCertificate_eq_ok_iff.mp ha, rfl,
          presentText_eq _, presentText_eq _, rfl, ConnectionInfo.ofFields_answeredFields ..⟩)

/-- Assembling two answers fails for want of a certificate only. -/
theorem assemble_error {a : MetadataResponse} {b : CertificateResponse} {fault : Fault}
    (h : assemble a b = .error fault) :
    fault = .emptyChain ∨ ∃ cause, fault = .certificate cause := by
  rcases assemble_cases a b with ⟨_, _, cause, _, he⟩ | ⟨_, he⟩ | ⟨info, he, _⟩
  · rw [he] at h
    cases h
    exact .inr ⟨cause, rfl⟩
  · rw [he] at h
    cases h
    exact .inl rfl
  · rw [he] at h
    contradiction

/-- A bundle that was assembled reflects both answers. -/
theorem reflects_of_assemble {a : MetadataResponse} {b : CertificateResponse}
    {info : ConnectionInfo} (h : assemble a b = .ok info) : info.Reflects a b := by
  rcases assemble_cases a b with ⟨_, _, cause, _, he⟩ | ⟨_, he⟩ | ⟨info', he, hr⟩
  · rw [he] at h
    contradiction
  · rw [he] at h
    contradiction
  · rw [he] at h
    cases h
    exact hr

/-- Two answers assemble exactly when the chain is not empty and each of its texts,
and the authority, is a certificate. -/
theorem exists_assemble_iff (a : MetadataResponse) (b : CertificateResponse) :
    (∃ info, assemble a b = .ok info) ↔
      b.chain ≠ [] ∧ (∀ text ∈ b.chain, ∃ certificate, Certificate.readText text = .ok certificate) ∧
        ∃ certificate, Certificate.readText b.authority = .ok certificate := by
  constructor
  · rintro ⟨info, h⟩
    have hr := reflects_of_assemble h
    have hread := hr.chain.imp fun _ certificate h => And.intro (Exists.intro certificate h) h
    refine ⟨?_, ((List.forall₂_and_left _ _).mp hread).1, info.caCertificate, hr.authority⟩
    intro hn
    have hchain := hr.chain
    rw [hn] at hchain
    cases hchain
  · rintro ⟨hne, hchain, authority, ha⟩
    rcases assemble_cases a b with ⟨text, ht, cause, he, _⟩ | ⟨hn, _⟩ | ⟨info, he, _⟩
    · rcases List.mem_append.mp ht with ht | ht
      · obtain ⟨certificate, hc⟩ := hchain text ht
        rw [hc] at he
        contradiction
      · rw [List.mem_singleton.mp ht, ha] at he
        contradiction
    · exact absurd hn hne
    · exact ⟨info, he⟩

end InstanceLink
