import InstanceLink.Proofs.Certificate.Octets
import InstanceLink.Proofs.Certificate.Sections

/-!
# Octets and text sections agree

A certificate is read from its octets, and the same certificate from the text section that is
written for it, with any ASCII white space in front, as bytes or as a text. The octets of a
certificate are never taken for a text, so no certificate gets into the wrong reader.
-/

namespace InstanceLink

namespace Certificate

/-- The octets that are read as a certificate: bytes as they are, unless they look like a text,
and then the content of the first section that is labelled as a certificate. -/
def carried? (bytes : List UInt8) : Option (List UInt8) :=
  if looksLikeText bytes then
    (TextSection.read? bytes).bind fun sections =>
      (sections.find? fun s => sectionLabels.contains s.label).map TextSection.content
  else some bytes

/-- What bytes carry is read as octets. Bytes that carry nothing are a text without a section
of a certificate, or with a broken section. -/
theorem read_cases (bytes : List UInt8) :
    (∃ der, carried? bytes = some der ∧ read bytes = ofDer der) ∨
      carried? bytes = none ∧
        (read bytes = .error .badSection ∨ read bytes = .error .noSection) := by
  cases ht : looksLikeText bytes with
  | false => exact .inl ⟨bytes, by simp only [carried?, ht]; rfl, read_of_not_text ht⟩
  | true =>
    simp only [carried?, read, ofText, ht, if_true]
    cases hr : TextSection.read? bytes with
    | none => exact .inr ⟨rfl, .inl rfl⟩
    | some sections =>
      cases hf : sections.find? fun s => sectionLabels.contains s.label with
      | none =>
        refine .inr ⟨?_, .inr ?_⟩
        · simp only [Option.bind_some, hf, Option.map_none]
        · simp only [hf]
      | some s =>
        refine .inl ⟨s.content, ?_, ?_⟩
        · simp only [Option.bind_some, hf, Option.map_some]
        · simp only [hf]

/-- Bytes are read as the octets they carry. -/
theorem read_of_carried? {bytes der : List UInt8} (h : carried? bytes = some der) :
    read bytes = ofDer der := by
  rcases read_cases bytes with ⟨der', hc, hr⟩ | ⟨hc, -⟩
  · cases hc.symm.trans h
    exact hr
  · exact nomatch hc.symm.trans h

/-- A certificate that its own octets are read as. -/
def IsGenuine (c : Certificate) : Prop := ofDer c.der = .ok c

/-- A certificate that was read from octets holds them, so it is genuine. -/
theorem isGenuine_of_ofDer {der : List UInt8} {c : Certificate} (h : ofDer der = .ok c) :
    c.IsGenuine := by
  obtain ⟨_, _, -, hder⟩ := ofDer_eq_ok h
  rw [IsGenuine, hder]
  exact h

/-- A certificate that was read is genuine, whatever carried its octets. -/
theorem isGenuine_of_read {bytes : List UInt8} {c : Certificate} (h : read bytes = .ok c) :
    c.IsGenuine := by
  rcases read_cases bytes with ⟨der, -, hr⟩ | ⟨-, hr | hr⟩
  · exact isGenuine_of_ofDer (hr.symm.trans h)
  · cases hr.symm.trans h
  · cases hr.symm.trans h

/-- The octets of a certificate carry themselves. -/
theorem carried?_of_parts? {der : List UInt8} {number : Nat} {fields : Certificate}
    (h : parts? der = some (number, fields)) : carried? der = some der := by
  rw [carried?, looksLikeText_of_parts? h]
  rfl

/-- The white space of ASCII. -/
def asciiBlanks : List Char := [' ', '\t', '\n', '\x0b', '\x0c', '\r']

/-- The bytes of white space are skipped in front of a text, and none of them is a dash. -/
theorem isBlank_of_mem {b : UInt8} (h : b ∈ Text.encodeUtf8 asciiBlanks) :
    ((9 ≤ b.toNat && b.toNat ≤ 13) || b.toNat = 32) = true ∧ b ≠ 0x2d := by
  have hall : ((Text.encodeUtf8 asciiBlanks).all fun b =>
      ((9 ≤ b.toNat && b.toNat ≤ 13) || b.toNat = 32) && b != 0x2d) = true := by decide
  obtain ⟨hspace, hdash⟩ := Bool.and_eq_true_iff.mp (List.all_eq_true.mp hall b h)
  exact ⟨hspace, bne_iff_ne.mp hdash⟩

section Written

variable {before : List UInt8} (hbefore : ∀ b ∈ before, b ∈ Text.encodeUtf8 asciiBlanks)
include hbefore

/-- A written section looks like a text. -/
theorem looksLikeText_section (s : TextSection) :
    looksLikeText (before ++ Text.encodeUtf8 s.text.toList) = true := by
  have hmark : TextSection.plainBytes "-----BEGIN " =
      0x2d :: TextSection.plainBytes "----BEGIN" ++ [0x20] := by decide
  have hlook : TextSection.plainBytes "-----BEGIN" =
      0x2d :: TextSection.plainBytes "----BEGIN" := by decide
  rw [looksLikeText, List.dropWhile_append_of_pos fun b hb => (isBlank_of_mem (hbefore b hb)).1,
    TextSection.encodeUtf8_text, hmark, hlook, List.cons_append, List.cons_append,
    List.dropWhile_cons_of_neg (by decide), List.isPrefixOf_iff_prefix, List.append_assoc,
    ← List.cons_append]
  exact List.prefix_append _ _

/-- A section that is labelled as a certificate carries its content. -/
theorem carried?_section {s : TextSection} (hlabel : s.label ∈ sectionLabels) :
    carried? (before ++ Text.encodeUtf8 s.text.toList) = some s.content := by
  have hlabels : ∀ label ∈ sectionLabels, label.toList ≠ [] ∧ '-' ∉ label.toList := by decide
  have hread : TextSection.read? (before ++ Text.encodeUtf8 s.text.toList) = some [s] := by
    have hwritten : TextSection.written [s] = Text.encodeUtf8 s.text.toList :=
      List.flatMap_singleton _ _
    rw [← hwritten]
    refine TextSection.read?_written (List.forall_mem_singleton.mpr ?_)
      fun hmem => (isBlank_of_mem (hbefore _ hmem)).2 rfl
    exact ⟨(hlabels _ hlabel).1, (hlabels _ hlabel).2⟩
  have hfound : ([s].find? fun s => sectionLabels.contains s.label) = some s :=
    List.find?_cons_of_pos (List.contains_iff_mem.mpr hlabel)
  rw [carried?, if_pos (looksLikeText_section hbefore s), hread, Option.bind_some, hfound,
    Option.map_some]

end Written

/-- The octets of a certificate never look like a text, whatever its version. They are read as
that certificate, which holds them, and so is the text section written for it, with any ASCII
white space in front, as bytes and as a text. -/
theorem armour_laws (der : List UInt8) :
    (∀ number fields, parts? der = some (number, fields) → looksLikeText der = false) ∧
      ∀ c, ofDer der = .ok c →
        looksLikeText der = false ∧ read der = .ok c ∧ c.der = der ∧
          (∀ before : List UInt8, (∀ b ∈ before, b ∈ Text.encodeUtf8 asciiBlanks) →
            looksLikeText (before ++ Text.encodeUtf8 c.sectionText.toList) = true ∧
              read (before ++ Text.encodeUtf8 c.sectionText.toList) = .ok c) ∧
          ∀ before : String, (∀ blank ∈ before.toList, blank ∈ asciiBlanks) →
            readText (before ++ c.sectionText) = .ok c := by
  refine ⟨fun number fields => looksLikeText_of_parts?, fun c hc => ?_⟩
  obtain ⟨number, fields, hparts, hder⟩ := ofDer_eq_ok hc
  have hlook := looksLikeText_of_parts? hparts
  have hlabel : "CERTIFICATE" ∈ sectionLabels := by decide
  have hbytes : ∀ before : List UInt8, (∀ b ∈ before, b ∈ Text.encodeUtf8 asciiBlanks) →
      looksLikeText (before ++ Text.encodeUtf8 c.sectionText.toList) = true ∧
        read (before ++ Text.encodeUtf8 c.sectionText.toList) = .ok c := by
    intro before hbefore
    refine ⟨looksLikeText_section hbefore ⟨"CERTIFICATE", c.der⟩, ?_⟩
    have hcarried := carried?_section hbefore (s := ⟨"CERTIFICATE", c.der⟩) hlabel
    rw [sectionText, read_of_carried? hcarried, hder, hc]
  refine ⟨hlook, (read_of_not_text hlook).trans hc, hder, hbytes, fun before hbefore => ?_⟩
  rw [readText, String.toList_append, Text.encodeUtf8_append]
  refine (hbytes _ fun b hb => ?_).2
  -- White space in front of a text is white space in front of its bytes.
  obtain ⟨blank, hblank, hb⟩ := List.mem_flatMap.mp hb
  exact List.mem_flatMap.mpr ⟨blank, hbefore blank hblank, hb⟩

/-- The octets of a small certificate that says it is of the given version. -/
def sampleOctets (number : UInt8) : List UInt8 :=
  [0x30, 0x6b, 0x30, 0x5f, 0xa0, 0x03, 0x02, 0x01, number] ++
    TextSection.plainBytes
      ("\x02\x01\x010\x05\x06\x03+ep0\x000\x1e\x17\x0d240101000000Z\x17\x0d340101000000Z0\x00" ++
        "0*0\x05\x06\x03+ep\x03!\x000123456789abcdef0123456789abcdef0\x05\x06\x03+ep\x03\x01\x00")

/-- The sample is well formed in the third version and in the fourth. -/
theorem exists_parts?_sampleOctets (number : UInt8) (h : number ∈ [2, 3]) :
    ∃ fields, parts? (sampleOctets number) = some (number.toNat, fields) := by
  have hnumber : ∀ number ∈ ([2, 3] : List UInt8),
      (parts? (sampleOctets number)).map Prod.fst = some number.toNat := by decide +kernel
  obtain ⟨⟨_, fields⟩, hparts, rfl⟩ := Option.map_eq_some_iff.mp (hnumber number h)
  exact ⟨fields, hparts⟩

/-- A certificate of the third version is read from its octets, and from its text section with
a blank line in front. -/
theorem armour_laws_thirdVersion :
    ∃ c, read (sampleOctets 2) = .ok c ∧ readText (" \n" ++ c.sectionText) = .ok c := by
  obtain ⟨fields, hparts⟩ := exists_parts?_sampleOctets 2 (by decide)
  have hc : ofDer (sampleOctets 2) = .ok { fields with version := .v3 } := by
    rw [ofDer, hparts]
    rfl
  obtain ⟨-, hagree⟩ := armour_laws (sampleOctets 2)
  obtain ⟨-, hread, -, -, htext⟩ := hagree _ hc
  exact ⟨_, hread, htext " \n" (by simp [asciiBlanks])⟩

end Certificate

end InstanceLink
