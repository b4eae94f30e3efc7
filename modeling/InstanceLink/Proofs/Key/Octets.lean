import InstanceLink.Key.SubjectPublicKey
import InstanceLink.Proofs.Der.Contents

/-!
# Reading the octets of keys

Both element forms of an RSA key are read back as that key: the bare pair of its numbers,
and the pair beside the name of its algorithm.
-/

namespace InstanceLink

namespace SubjectPublicKey

open Der (Element)

/-- The element of the bare pair of a key's numbers. -/
def pairElement (key : RsaKey) : Element :=
  Element.sequenceOf [Element.ofNatural key.modulus, Element.ofNatural key.exponent]

/-- The element of the algorithm's name, with the empty value as its parameters. -/
def nameElement : Element :=
  Element.sequenceOf [Element.around Der.Tag.objectIdentifier
    [0x2a, 0x86, 0x48, 0x86, 0xf7, 0x0d, 0x01, 0x01, 0x01], Element.around Der.Tag.null []]

/-- The element of a key beside the name of its algorithm. -/
def keyElement (key : RsaKey) : Element :=
  Element.sequenceOf [nameElement, Element.around Der.Tag.bitString (0 :: pairOctets key)]

/-- The bare pair is written with the octets of its element. -/
theorem octets_pairElement (key : RsaKey) : (pairElement key).octets = pairOctets key := rfl

/-- A key is written with the octets of its element. -/
theorem octets_keyElement (key : RsaKey) : (keyElement key).octets = octets key := rfl

/-- Every number of a key is written with countable octets. -/
theorem written_ofNatural {n : Nat} (h : n.log2 < RsaKey.sizeLimit) :
    (Element.ofNatural n).Written := by
  refine Element.written_around (by decide) (by decide) ?_
  have hlength := Der.length_naturalContent_le n
  rw [RsaKey.sizeLimit] at h
  rw [Der.lengthLimit]
  omega

/-- A number of a key takes its contents and at most six octets more. -/
theorem length_ofNatural_le {n : Nat} (h : n.log2 < RsaKey.sizeLimit) :
    (Element.ofNatural n).octets.length ≤ RsaKey.sizeLimit / 8 + 8 := by
  have hlength : (Element.ofNatural n).octets.length ≤ (Der.naturalContent n).length + 6 :=
    (written_ofNatural h).length_le
  have hcontent := Der.length_naturalContent_le n
  rw [RsaKey.sizeLimit] at h ⊢
  omega

/-- The numbers of a key together take countable octets. -/
theorem length_numbers_le (key : RsaKey) :
    (([Element.ofNatural key.modulus, Element.ofNatural key.exponent].map
      Element.octets).flatten).length ≤ RsaKey.sizeLimit / 4 + 16 := by
  have hmodulus := length_ofNatural_le key.modulus_size
  have hexponent := length_ofNatural_le key.exponent_size
  simp only [List.map_cons, List.map_nil, List.flatten_cons, List.flatten_nil, List.append_nil,
    List.length_append]
  rw [RsaKey.sizeLimit] at hmodulus hexponent ⊢
  omega

/-- The bare pair is in the shortest form. -/
theorem written_pairElement (key : RsaKey) : (pairElement key).Written :=
  Element.written_sequenceOf (Nat.lt_of_le_of_lt (length_numbers_le key) (by decide))

/-- The bare pair takes countable octets. -/
theorem length_pairOctets_le (key : RsaKey) :
    (pairOctets key).length ≤ RsaKey.sizeLimit / 4 + 22 := by
  have hpair := (written_pairElement key).length_le
  have hnumbers : (pairElement key).content.length ≤ _ := length_numbers_le key
  rw [← octets_pairElement]
  omega

/-- The bits of a key are in the shortest form. -/
theorem written_bits (key : RsaKey) :
    (Element.around Der.Tag.bitString (0 :: pairOctets key)).Written := by
  refine Element.written_around (by decide) (by decide) ?_
  have hpair := length_pairOctets_le key
  rw [RsaKey.sizeLimit] at hpair
  rw [List.length_cons, Der.lengthLimit]
  omega

/-- The algorithm's name is in the shortest form. -/
theorem written_nameElement : nameElement.Written :=
  Element.written_sequenceOf (by decide)

/-- The key beside the name of its algorithm is in the shortest form. -/
theorem written_keyElement (key : RsaKey) : (keyElement key).Written := by
  refine Element.written_sequenceOf ?_
  have hbits : _ ≤ (pairOctets key).length + 1 + 6 := (written_bits key).length_le
  have hpair := length_pairOctets_le key
  have hname : nameElement.octets.length = 15 := by decide
  simp only [List.map_cons, List.map_nil, List.flatten_cons, List.flatten_nil, List.append_nil,
    List.length_append]
  rw [RsaKey.sizeLimit] at hpair
  rw [Der.lengthLimit]
  omega

/-- The two numbers of the bare pair are read back as elements. -/
theorem children?_pairElement (key : RsaKey) :
    (pairElement key).children? =
      some [Element.ofNatural key.modulus, Element.ofNatural key.exponent] := by
  refine Element.children?_sequenceOf ?_
  simp only [List.mem_cons, List.not_mem_nil, or_false]
  rintro e (rfl | rfl)
  · exact written_ofNatural key.modulus_size
  · exact written_ofNatural key.exponent_size

/-- The name of the algorithm and the bits are read back as elements. -/
theorem children?_keyElement (key : RsaKey) :
    (keyElement key).children? =
      some [nameElement, Element.around Der.Tag.bitString (0 :: pairOctets key)] := by
  refine Element.children?_sequenceOf ?_
  simp only [List.mem_cons, List.not_mem_nil, or_false]
  rintro e (rfl | rfl)
  · exact written_nameElement
  · exact written_bits key

/-- The numbers of a bare pair are read back. -/
theorem pair?_pairOctets (key : RsaKey) :
    pair? (pairOctets key) = some (key.modulus, key.exponent) := by
  have hsingle := (written_pairElement key).single?
  rw [octets_pairElement] at hsingle
  have htag : ((pairElement key).tag != Der.Tag.sequence) = false := rfl
  simp only [pair?, hsingle, children?_pairElement, htag, Option.bind_eq_bind, Option.bind_some,
    Element.natural?_ofNatural]
  rfl

/-- The name of the algorithm is read back, with the empty value as its parameters. -/
theorem ofElement?_nameElement :
    Algorithm.ofElement? nameElement =
      some ⟨Algorithm.rsaArcs, some (Element.around Der.Tag.null [])⟩ := by
  decide

/-- The two parts of a key beside the name of its algorithm are read back. -/
theorem ofElement?_keyElement (key : RsaKey) :
    ofElement? (keyElement key) =
      some ⟨⟨Algorithm.rsaArcs, some (Element.around Der.Tag.null [])⟩, ⟨0, pairOctets key⟩⟩ := by
  have htag : ((keyElement key).tag != Der.Tag.sequence) = false := rfl
  simp only [ofElement?, children?_keyElement, htag, Option.bind_eq_bind, Option.bind_some,
    ofElement?_nameElement, Element.bitString?_around]
  rfl

/-- A number does not name an algorithm. -/
theorem ofElement?_ofNatural (n : Nat) : Algorithm.ofElement? (Element.ofNatural n) = none := by
  have hsplit : Algorithm.split? (Element.ofNatural n) = none := rfl
  have hnot : ∀ depth, Algorithm.isWellFormed depth (Element.ofNatural n) = false := by
    intro depth
    cases depth with
    | zero => rfl
    | succ depth => rw [Algorithm.isWellFormed, hsplit, Option.any_none]
  rw [Algorithm.ofElement?, hnot]
  rfl

/-- The bare pair does not name its algorithm. -/
theorem ofElement?_pairElement (key : RsaKey) : ofElement? (pairElement key) = none := by
  have htag : ((pairElement key).tag != Der.Tag.sequence) = false := rfl
  simp only [ofElement?, children?_pairElement, htag, Option.bind_eq_bind, Option.bind_some,
    ofElement?_ofNatural]
  rfl

/-- A key is read back from the octets that name its algorithm. -/
theorem read_octets (key : RsaKey) : read (octets key) = .ok key := by
  have hsingle := (written_keyElement key).single?
  rw [octets_keyElement] at hsingle
  have hnumbers : SubjectPublicKey.numbers
      ⟨⟨Algorithm.rsaArcs, some (Element.around Der.Tag.null [])⟩, ⟨0, pairOctets key⟩⟩ =
        .ok (key.modulus, key.exponent) := by
    have hkind : KeyKind.ofArcs? Algorithm.rsaArcs = some .rsa := by decide
    simp only [SubjectPublicKey.numbers, hkind, pair?_pairOctets]
    rfl
  simp only [read, hsingle, Option.bind_some, ofElement?_keyElement, hnumbers, RsaKey.ofNats_self]
  rfl

/-- A key is read back from the bare pair of its numbers. -/
theorem read_pairOctets (key : RsaKey) : read (pairOctets key) = .ok key := by
  have hsingle := (written_pairElement key).single?
  rw [octets_pairElement] at hsingle
  simp only [read, hsingle, Option.bind_some, ofElement?_pairElement, pair?_pairOctets,
    RsaKey.ofNats_self]
  rfl

end SubjectPublicKey

end InstanceLink
