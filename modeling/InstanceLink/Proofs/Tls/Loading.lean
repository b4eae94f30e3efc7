import InstanceLink.Proofs.Certificate.Armour
import InstanceLink.Proofs.Fetch.Assembly
import InstanceLink.Tls.Context

/-!
# Loading written certificates

The text that is written for a row of certificates is loaded as that row: no certificate is lost,
repeated or moved, however many there are. So a context holds exactly the certificates of its
bundle, provided that each of them is what its octets are read as.
-/

namespace InstanceLink

/-- The section that is written for a certificate. -/
def Certificate.textSection (c : Certificate) : TextSection := ⟨"CERTIFICATE", c.der⟩

/-- The text of a row of certificates is the row of their sections. -/
theorem Certificate.encodeUtf8_rowText (row : List Certificate) :
    Text.encodeUtf8 (Certificate.rowText row).toList =
      TextSection.written (row.map Certificate.textSection) := by
  induction row with
  | nil => rfl
  | cons c row ih =>
    have htext : Certificate.rowText (c :: row) = c.sectionText ++ Certificate.rowText row :=
      String.join_cons
    have hwritten : TextSection.written (c.textSection :: row.map Certificate.textSection) =
        Text.encodeUtf8 c.textSection.text.toList ++
          TextSection.written (row.map Certificate.textSection) := List.flatMap_cons
    rw [htext, String.toList_append, Text.encodeUtf8_append, ih, List.map_cons, hwritten]
    rfl

namespace Loading

variable {row : List Certificate}

/-- The entries of a written row are the octets of its certificates. -/
theorem entries?_rowText (row : List Certificate) :
    entries? (Certificate.rowText row) = some (row.map Certificate.der) := by
  have hlabel : Certificate.sectionLabels.contains "CERTIFICATE" = true := by decide
  have hplain : "CERTIFICATE".toList ≠ [] ∧ '-' ∉ "CERTIFICATE".toList := by decide
  have hwritable : ∀ s ∈ row.map Certificate.textSection, s.Writable := by
    intro s hs
    obtain ⟨c, -, rfl⟩ := List.mem_map.mp hs
    exact ⟨hplain.1, hplain.2⟩
  have hread := TextSection.read?_written hwritable List.not_mem_nil
  rw [List.nil_append] at hread
  have hkept : (row.map Certificate.textSection).filter
      (fun s => Certificate.sectionLabels.contains s.label) = row.map Certificate.textSection := by
    refine List.filter_eq_self.mpr fun s hs => ?_
    obtain ⟨c, -, rfl⟩ := List.mem_map.mp hs
    exact hlabel
  rw [entries?, Certificate.encodeUtf8_rowText, hread, Option.map_some, hkept, List.map_map]
  rfl

/-- A written authority is loaded as itself when it can be read, and not at all otherwise. -/
theorem trusted_rowText {c : Certificate} (h : c.IsGenuine) :
    trusted (Certificate.rowText [c]) =
      if c.isReadable then .ok [c] else .error Strength.unreadableTrusted := by
  rw [Certificate.IsGenuine] at h
  have hentry : trustedCertificate? c.der = (some c).filter Certificate.isReadable := by
    rw [trustedCertificate?, h]
    rfl
  rw [trusted, entries?_rowText, List.map_singleton, Option.bind_some, List.mapM_cons, hentry]
  cases hreadable : c.isReadable with
  | true => simp [Option.filter, hreadable]
  | false => simp [Option.filter, hreadable]

/-- A genuine certificate is presented as itself when it is not refused. -/
theorem presentedCertificate_eq_ok_iff {first : Bool} {c out : Certificate} (h : c.IsGenuine) :
    presentedCertificate first c.der = .ok out ↔ out = c ∧ Strength.refusal? first c = none := by
  rw [Certificate.IsGenuine] at h
  simp only [presentedCertificate, h]
  split
  next reason hreason => simp [hreason]
  next hnone =>
    rw [Except.ok.injEq, and_iff_left hnone]
    exact eq_comm

/-- Whether all certificates are admitted to a chain, from its start or further on. -/
def Admits (first : Bool) : List Certificate → Prop
  | [] => True
  | c :: rest => Strength.refusal? first c = none ∧ Admits false rest

/-- Behind the first certificate, all are judged alike. -/
theorem admits_false_iff : Admits false row ↔ ∀ c ∈ row, Strength.refusal? false c = none := by
  induction row with
  | nil => simp [Admits]
  | cons c row ih => rw [Admits, ih, List.forall_mem_cons]

/-- The octets of a chain are loaded as that chain when all its certificates are admitted, and not
at all otherwise. -/
theorem presentedFrom_eq_ok_iff {first : Bool} {out : List Certificate}
    (h : ∀ c ∈ row, c.IsGenuine) :
    presentedFrom first (row.map Certificate.der) = .ok out ↔ out = row ∧ Admits first row := by
  induction row generalizing first out with
  | nil =>
    rw [List.map_nil, presentedFrom, Except.ok.injEq, eq_comm]
    exact (and_iff_left trivial).symm
  | cons c row ih =>
    obtain ⟨hc, hrow⟩ := List.forall_mem_cons.mp h
    rw [List.map_cons, presentedFrom, bind_eq_ok_iff]
    constructor
    · rintro ⟨found, hfound, hrest⟩
      obtain ⟨others, hothers, hout⟩ := bind_eq_ok_iff.mp hrest
      obtain ⟨rfl, hnone⟩ := (presentedCertificate_eq_ok_iff hc).mp hfound
      obtain ⟨rfl, hadmits⟩ := (ih hrow).mp hothers
      cases hout
      exact ⟨rfl, hnone, hadmits⟩
    · rintro ⟨rfl, hnone, hadmits⟩
      refine ⟨c, (presentedCertificate_eq_ok_iff hc).mpr ⟨rfl, hnone⟩, ?_⟩
      exact bind_eq_ok_iff.mpr ⟨row, (ih hrow).mpr ⟨rfl, hadmits⟩, rfl⟩

/-- A written chain is loaded as itself when all its certificates are admitted, and not at all
otherwise. -/
theorem presented_rowText_eq_ok_iff {out : List Certificate} (h : ∀ c ∈ row, c.IsGenuine) :
    presented (Certificate.rowText row) = .ok out ↔ out = row ∧ Admits true row := by
  rw [presented, entries?_rowText]
  exact presentedFrom_eq_ok_iff h

end Loading

/-- The certificates of a bundle, the authority first. -/
def ConnectionInfo.certificates (info : ConnectionInfo) : List Certificate :=
  info.caCertificate :: info.certificateChain

/-- All certificates of a bundle that was assembled are genuine. -/
theorem isGenuine_of_assemble {a : MetadataResponse} {b : CertificateResponse}
    {info : ConnectionInfo} (h : assemble a b = .ok info) :
    ∀ c ∈ info.certificates, c.IsGenuine := by
  have hreflects := reflects_of_assemble h
  have hchain : List.Forall₂ (fun c text => c.IsGenuine ∧ Certificate.readText text = .ok c)
      info.certificateChain b.chain :=
    (hreflects.chain.imp fun _ c hread => ⟨Certificate.isGenuine_of_read hread, hread⟩).flip
  exact List.forall_mem_cons.mpr ⟨Certificate.isGenuine_of_read hreflects.authority,
    ((List.forall₂_and_left _ _).mp hchain).1⟩

namespace TlsContext

/-- A key belongs to a certificate when a transport reads the key's numbers in it. -/
theorem keyRefusal?_eq_none_iff {leader : Certificate} {key : RsaKey} :
    keyRefusal? leader key = none ↔
      Strength.rsaNumbers? leader = some (key.modulus, key.exponent) := by
  rw [keyRefusal?]
  cases Strength.rsaNumbers? leader with
  | none => simp
  | some numbers => simp

section Genuine

variable {info : ConnectionInfo} (h : ∀ c ∈ info.certificates, c.IsGenuine) {key : RsaKey}
include h

/-- What a context holds was loaded: the authority can be read and the chain is admitted. -/
theorem admitted_of_create {context : TlsContext} (hcreate : create info key = .ok context) :
    info.caCertificate.isReadable = true ∧ Loading.Admits true info.certificateChain := by
  obtain ⟨hca, hchain⟩ := List.forall_mem_cons.mp h
  rw [create, mapError_eq_ok_iff] at hcreate
  obtain ⟨trusted, htrusted, hcreate⟩ := bind_eq_ok_iff.mp hcreate
  obtain ⟨presented, hpresented, -⟩ := bind_eq_ok_iff.mp hcreate
  refine ⟨?_, ((Loading.presented_rowText_eq_ok_iff hchain).mp hpresented).2⟩
  rw [Loading.trusted_rowText hca] at htrusted
  split at htrusted
  next hreadable => exact hreadable
  next => cases htrusted

/-- Of a readable authority and an admitted chain, only the key is left to be judged. -/
theorem create_of_admitted (hreadable : info.caCertificate.isReadable = true)
    (hadmits : Loading.Admits true info.certificateChain) :
    create info key = (keyRefusal? info.clientCertificate key).elim
      (.ok ⟨.v13, false, .required, [info.caCertificate], info.certificateChain, key⟩)
      fun reason => .error (.transport reason) := by
  obtain ⟨hca, hchain⟩ := List.forall_mem_cons.mp h
  have htrusted := Loading.trusted_rowText hca
  rw [if_pos hreadable] at htrusted
  have hpresented := (Loading.presented_rowText_eq_ok_iff hchain).mpr ⟨rfl, hadmits⟩
  rw [create, htrusted, hpresented]
  simp only [ConnectionInfo.certificateChain, bind, Except.bind]
  cases keyRefusal? info.clientCertificate key <;> rfl

/-- There is a context for a genuine bundle and a key exactly when the authority can be read, the
chain is admitted and the key belongs to its first certificate; it holds that authority and that
chain. -/
theorem create_eq_ok_iff {context : TlsContext} :
    create info key = .ok context ↔
      (info.caCertificate.isReadable = true ∧ Loading.Admits true info.certificateChain ∧
        Strength.rsaNumbers? info.clientCertificate = some (key.modulus, key.exponent)) ∧
      context =
        ⟨.v13, false, .required, [info.caCertificate], info.certificateChain, key⟩ := by
  rw [← keyRefusal?_eq_none_iff]
  constructor
  · intro hcreate
    obtain ⟨hreadable, hadmits⟩ := admitted_of_create h hcreate
    rw [create_of_admitted h hreadable hadmits] at hcreate
    cases hkey : keyRefusal? info.clientCertificate key with
    | some reason =>
      rw [hkey] at hcreate
      cases hcreate
    | none =>
      rw [hkey] at hcreate
      cases hcreate
      exact ⟨⟨hreadable, hadmits, rfl⟩, rfl⟩
  · rintro ⟨⟨hreadable, hadmits, hkey⟩, rfl⟩
    rw [create_of_admitted h hreadable hadmits, hkey]
    rfl

end Genuine

/-- Every fault of setting up a context is one of the secure transport. -/
theorem exists_transport_of_create {info : ConnectionInfo} {key : RsaKey} {fault : Fault}
    (h : create info key = .error fault) : ∃ reason, fault = .transport reason := by
  obtain ⟨reason, -, hfault⟩ := mapError_eq_error_iff.mp h
  exact ⟨reason, hfault.symm⟩

end TlsContext

end InstanceLink
