import InstanceLink.Certificate.Reader
import InstanceLink.Proofs.Der.Shortest
import Mathlib.Data.Option.Basic

/-!
# What well-formed octets show

Octets with the form of a certificate start with the identifier of a sequence, so they are
never taken for a text. Their version number needs at most one octet and is not the default
written out, and the certificate read from them holds them as they were.
-/

namespace InstanceLink

/-- A short identifier is the first octet of an element. -/
theorem Der.head?_of_element? {bytes rest : List UInt8} {e : Der.Element}
    (h : Der.element? bytes = some (e, rest)) (hshort : e.tag < 256) :
    bytes.head?.map UInt8.toNat = some e.tag := by
  obtain ⟨hwritten, rfl⟩ := Der.Element.written_of_element? h hshort
  rw [hwritten.octets_eq, Der.element, List.cons_append, List.cons_append, List.head?_cons,
    Option.map_some, UInt8.toNat_ofNat', Nat.mod_eq_of_lt hshort]

namespace Certificate

/-- A certificate is a sequence of a signed part, an algorithm and a signature. -/
theorem exists_outer {der : List UInt8} {number : Nat} {fields : Certificate}
    (h : parts? der = some (number, fields)) :
    ∃ outer outerSignature signed, Der.single? der = some outer ∧
      outer.tag = Der.Tag.sequence ∧
      signedPart? der outerSignature signed = some (number, fields) := by
  simp only [parts?, Option.bind_eq_bind, Option.bind_none, Option.bind_eq_some_iff,
    Option.ite_none_left_eq_some] at h
  obtain ⟨outer, hs, htag, children, -, h⟩ := h
  split at h
  · obtain ⟨-, -, h⟩ := Option.bind_eq_some_iff.mp h
    obtain ⟨outerSignature, -, h⟩ := Option.bind_eq_some_iff.mp h
    exact ⟨outer, outerSignature, _, hs, by simpa using htag, h⟩
  · contradiction

/-- Certificates start with the identifier of a sequence. -/
theorem head?_of_parts? {der : List UInt8} {number : Nat} {fields : Certificate}
    (h : parts? der = some (number, fields)) : der.head? = some 0x30 := by
  obtain ⟨outer, _, _, hs, htag, -⟩ := exists_outer h
  have he : Der.element? der = some (outer, []) := by
    unfold Der.single? at hs
    split at hs
    · cases hs
      assumption
    · contradiction
  have hhead := Der.head?_of_element? he (by rw [htag]; decide)
  rw [htag] at hhead
  obtain ⟨b, hb, hn⟩ := Option.map_eq_some_iff.mp hhead
  rw [hb, ← UInt8.toNat_inj.mp (hn.trans (by decide : Der.Tag.sequence = (0x30 : UInt8).toNat))]

/-- Certificates are never taken for a text. -/
theorem looksLikeText_of_parts? {der : List UInt8} {number : Nat} {fields : Certificate}
    (h : parts? der = some (number, fields)) : looksLikeText der = false := by
  obtain ⟨rest, rfl⟩ := List.head?_eq_some_iff.mp (head?_of_parts? h)
  rfl

/-- A version number that is written out is neither the default nor longer than one octet. -/
theorem versionNumber?_bounds {e : Der.Element} {number : Nat}
    (h : versionNumber? e = some number) : number ≠ 0 ∧ number ≤ 255 := by
  simp only [versionNumber?, Option.bind_eq_bind, Option.bind_eq_some_iff] at h
  obtain ⟨children, -, h⟩ := h
  split at h
  · obtain ⟨n, -, hn⟩ := Option.bind_eq_some_iff.mp h
    split at hn
    · contradiction
    · rename_i hbounds
      cases hn
      simp only [Bool.or_eq_true, decide_eq_true_eq, not_or] at hbounds
      omega
  · contradiction

/-- The fields are read as those of the octets they stand in. -/
theorem der_of_fields? {der : List UInt8} {outerSignature : Algorithm}
    {parts : List Der.Element} {fields : Certificate}
    (h : fields? der outerSignature parts = some fields) : fields.der = der := by
  unfold fields? at h
  split at h
  · simp only [Option.bind_eq_bind, Option.bind_none, Option.bind_eq_some_iff,
      Option.ite_none_left_eq_some, Option.pure_def, Option.some.injEq] at h
    obtain ⟨-, -, -, -, -, -, -, -, -, -, -, -, -, rfl⟩ := h
    rfl
  · contradiction

/-- The version number and the octets of the signed part. -/
theorem signedPart?_spec {der : List UInt8} {outerSignature : Algorithm} {e : Der.Element}
    {number : Nat} {fields : Certificate}
    (h : signedPart? der outerSignature e = some (number, fields)) :
    number ≤ 255 ∧ fields.der = der := by
  simp only [signedPart?, Option.bind_eq_bind, Option.bind_none, Option.bind_eq_some_iff,
    Option.ite_none_left_eq_some] at h
  obtain ⟨-, children, -, h⟩ := h
  split at h
  · split at h
    · obtain ⟨n, hn, h⟩ := Option.bind_eq_some_iff.mp h
      obtain ⟨read, hf, h⟩ := Option.bind_eq_some_iff.mp h
      cases h
      exact ⟨(versionNumber?_bounds hn).2, der_of_fields? hf⟩
    · obtain ⟨read, hf, h⟩ := Option.bind_eq_some_iff.mp h
      cases h
      exact ⟨by decide, der_of_fields? hf⟩
  · contradiction

/-- The version number and the octets of a certificate. -/
theorem parts?_spec {der : List UInt8} {number : Nat} {fields : Certificate}
    (h : parts? der = some (number, fields)) : number ≤ 255 ∧ fields.der = der := by
  obtain ⟨_, _, _, -, -, hsigned⟩ := exists_outer h
  exact signedPart?_spec hsigned

/-- Accepted octets have the form of a certificate, which holds them. -/
theorem ofDer_eq_ok {der : List UInt8} {c : Certificate} (h : ofDer der = .ok c) :
    ∃ number fields, parts? der = some (number, fields) ∧ c.der = der := by
  unfold ofDer at h
  split at h
  · contradiction
  · rename_i number fields hparts
    have hder := (parts?_spec hparts).2
    refine ⟨number, fields, hparts, ?_⟩
    split at h
    · cases h
      exact hder
    · split at h
      · cases h
        exact hder
      · contradiction

end Certificate

end InstanceLink
