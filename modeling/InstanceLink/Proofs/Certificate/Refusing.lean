import InstanceLink.Proofs.Certificate.Armour
import InstanceLink.Proofs.Number.Writing
import Mathlib.Tactic.ByContra

/-!
# Refusals of certificates

Whatever the bytes are, reading them gives a certificate or a refusal, and a refusal is worded
as a failed parse with one exception: a certificate all of whose fields can be read, but with a
version number that is none of the two supported ones, is refused by that number alone. It is so
for octets and for the content of a text section. All other bytes are told apart exactly: those
that carry no such certificate at all are a failed parse.
-/

namespace InstanceLink

namespace CertificateRefusal

/-- Whether a refusal is worded as a failed parse, whatever it names as the cause. -/
def IsParseFailure (refusal : CertificateRefusal) : Prop :=
  ∃ detail, refusal.message = "failed to parse X.509 certificate: " ++ detail

/-- The refusal of a version number is the only one that is not worded as a failed parse. -/
theorem isParseFailure_iff (refusal : CertificateRefusal) :
    refusal.IsParseFailure ↔ ∀ number, refusal ≠ .version number := by
  cases refusal with
  | malformed => exact ⟨nofun, fun _ => ⟨"error parsing asn1 value", by decide⟩⟩
  | badSection => exact ⟨nofun, fun _ => ⟨"malformed text section", by decide⟩⟩
  | noSection => exact ⟨nofun, fun _ => ⟨"no certificate section", by decide⟩⟩
  | version number =>
    refine ⟨?_, fun h => absurd rfl (h number)⟩
    rintro ⟨detail, h⟩
    -- The one wording starts with a digit, the other with a letter.
    have hlist := congrArg (fun s : String => s.toList.head?) h
    have hne : Nat.toDigits 10 number ≠ [] := by
      rw [Nat.toDigits_eq_if (by decide)]
      split <;> simp
    obtain ⟨c, rest, hc⟩ := List.exists_cons_of_ne_nil hne
    have hdigit : c.isDigit = true :=
      Number.isDigit_of_mem_toDigits (hc ▸ List.mem_cons_self)
    have hf : c = 'f' := by
      simpa [message, Nat.repr, toString, hc] using hlist
    rw [hf] at hdigit
    exact absurd hdigit (by decide)

end CertificateRefusal

namespace Certificate

/-- Octets whose fields can all be read are a certificate of a supported version, or refused
by their version number. -/
theorem ofDer_of_parts? {der : List UInt8} {number : Nat} {fields : Certificate}
    (h : parts? der = some (number, fields)) :
    (number = 0 ∨ number = 2) ∧ (∃ c, ofDer der = .ok c) ∨
      (number ≠ 0 ∧ number ≠ 2) ∧ ofDer der = .error (.version number) := by
  simp only [ofDer, h]
  split
  next hzero => exact .inl ⟨.inl hzero, _, rfl⟩
  next hzero =>
    split
    next htwo => exact .inl ⟨.inr htwo, _, rfl⟩
    next htwo => exact .inr ⟨⟨hzero, htwo⟩, rfl⟩

/-- Bytes carry a certificate all of whose fields can be read, with that version number. -/
def CarriesVersion (bytes : List UInt8) (number : Nat) : Prop :=
  ∃ der fields, carried? bytes = some der ∧ parts? der = some (number, fields)

/-- Bytes that carry a certificate are read as one of a supported version, or refused by their
version number. -/
theorem CarriesVersion.read {bytes : List UInt8} {number : Nat} (h : CarriesVersion bytes number) :
    (number = 0 ∨ number = 2) ∧ (∃ c, read bytes = .ok c) ∨
      (number ≠ 0 ∧ number ≠ 2) ∧ read bytes = .error (.version number) := by
  obtain ⟨der, fields, hcarried, hparts⟩ := h
  rw [read_of_carried? hcarried]
  exact ofDer_of_parts? hparts

/-- Bytes that carry no certificate are a failed parse. -/
theorem read_of_not_carriesVersion {bytes : List UInt8}
    (h : ¬∃ number, CarriesVersion bytes number) :
    ∃ refusal : CertificateRefusal, read bytes = .error refusal ∧ refusal.IsParseFailure := by
  rcases read_cases bytes with ⟨der, hcarried, hread⟩ | ⟨-, hread | hread⟩
  · have hnone : parts? der = none := by
      refine Option.eq_none_iff_forall_not_mem.mpr ?_
      rintro ⟨number, fields⟩ hparts
      exact h ⟨number, der, fields, hcarried, hparts⟩
    refine ⟨.malformed, ?_, (CertificateRefusal.isParseFailure_iff _).mpr (by simp)⟩
    simp only [hread, ofDer, hnone]
  · exact ⟨.badSection, hread, (CertificateRefusal.isParseFailure_iff _).mpr (by simp)⟩
  · exact ⟨.noSection, hread, (CertificateRefusal.isParseFailure_iff _).mpr (by simp)⟩

/-- Reading gives a certificate exactly for bytes that carry one of a supported version, and a
failed parse exactly for bytes that carry none at all. What is left is a certificate of another
version number, which needs at most one octet: it is refused by that number alone, and that
refusal is not worded as a failed parse. A text is read as its bytes are. -/
theorem refusing_laws (bytes : List UInt8) :
    ((∃ c, read bytes = .ok c) ↔
        ∃ number, (number = 0 ∨ number = 2) ∧ CarriesVersion bytes number) ∧
      ((∃ refusal : CertificateRefusal,
          read bytes = .error refusal ∧ refusal.IsParseFailure) ↔
        ¬∃ number, CarriesVersion bytes number) ∧
      (∀ number, number ≠ 0 → number ≠ 2 → CarriesVersion bytes number →
        (number = 1 ∨ 3 ≤ number ∧ number ≤ 255) ∧
          read bytes = .error (.version number) ∧
          (CertificateRefusal.version number).message =
            toString number ++ " is not a valid X509 version" ∧
          ¬(CertificateRefusal.version number).IsParseFailure) ∧
      ∀ s : String, Text.encodeUtf8 s.toList = bytes → readText s = read bytes := by
  have hworded : ∀ number, ¬(CertificateRefusal.version number).IsParseFailure :=
    fun number hf => (CertificateRefusal.isParseFailure_iff _).mp hf number rfl
  refine ⟨⟨?_, ?_⟩, ⟨?_, read_of_not_carriesVersion⟩, ?_, fun s hs => hs ▸ rfl⟩
  · rintro ⟨c, hc⟩
    by_contra hnone
    by_cases hcarries : ∃ number, CarriesVersion bytes number
    · obtain ⟨number, hcarries⟩ := hcarries
      rcases hcarries.read with ⟨hsupported, -⟩ | ⟨-, herror⟩
      · exact hnone ⟨number, hsupported, hcarries⟩
      · exact nomatch hc.symm.trans herror
    · obtain ⟨refusal, herror, -⟩ := read_of_not_carriesVersion hcarries
      exact nomatch hc.symm.trans herror
  · rintro ⟨number, hsupported, hcarries⟩
    rcases hcarries.read with ⟨-, hok⟩ | ⟨hother, -⟩
    · exact hok
    · exact absurd hsupported (not_or.mpr hother)
  · rintro ⟨refusal, hrefusal, hfailed⟩ ⟨number, hcarries⟩
    rcases hcarries.read with ⟨-, c, hc⟩ | ⟨-, herror⟩
    · exact nomatch hc.symm.trans hrefusal
    · cases hrefusal.symm.trans herror
      exact hworded number hfailed
  · intro number hzero htwo hcarries
    have hread := hcarries.read.resolve_left fun h => not_or.mpr ⟨hzero, htwo⟩ h.1
    obtain ⟨der, fields, -, hparts⟩ := hcarries
    have hle := (parts?_spec hparts).1
    exact ⟨by omega, hread.2, rfl, hworded number⟩

/-- A certificate of the fourth version is refused by its number, as octets and as the content
of a text section. -/
theorem refusing_laws_fourthVersion :
    read (sampleOctets 3) = .error (.version 3) ∧
      readText (TextSection.mk "CERTIFICATE" (sampleOctets 3)).text = .error (.version 3) := by
  obtain ⟨fields, hparts⟩ := exists_parts?_sampleOctets 3 (by decide)
  have hoctets : CarriesVersion (sampleOctets 3) 3 :=
    ⟨_, fields, carried?_of_parts? hparts, hparts⟩
  have hlabel : "CERTIFICATE" ∈ sectionLabels := by decide
  have hcarried := @carried?_section [] nofun ⟨"CERTIFICATE", sampleOctets 3⟩ hlabel
  rw [List.nil_append] at hcarried
  have htext : CarriesVersion
      (Text.encodeUtf8 (TextSection.mk "CERTIFICATE" (sampleOctets 3)).text.toList) 3 :=
    ⟨_, fields, hcarried, hparts⟩
  obtain ⟨-, -, hread, -⟩ := refusing_laws (sampleOctets 3)
  obtain ⟨-, -, hsection, hsame⟩ := refusing_laws
    (Text.encodeUtf8 (TextSection.mk "CERTIFICATE" (sampleOctets 3)).text.toList)
  exact ⟨(hread 3 (by decide) (by decide) hoctets).2.1,
    (hsame _ rfl).trans (hsection 3 (by decide) (by decide) htext).2.1⟩

end Certificate

end InstanceLink
