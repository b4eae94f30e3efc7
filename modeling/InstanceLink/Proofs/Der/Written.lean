import InstanceLink.Der.Primitive
import InstanceLink.Der.Writer

/-!
# Reading written elements

Elements in their shortest form are read back as they were written: one at the front of
other octets, and any row of them. Their lengths must be countable with four octets.
-/

namespace InstanceLink.Der

/-- The least length that four octets cannot count. -/
def lengthLimit : Nat := 0x100000000

/-- The octets of a number are as many as it takes: a number of so many octets is below
the next power, and not below its own. -/
theorem octetsOf_bounds {n : Nat} (hn : n ≠ 0) :
    ∃ k, (octetsOf n).length = k + 1 ∧ Nat.pow 256 k ≤ n ∧ n < Nat.pow 256 (k + 1) := by
  induction n using Nat.strongRecOn with
  | ind n ih =>
    rw [octetsOf, dif_neg hn, List.length_append, List.length_singleton]
    by_cases hsmall : n / 256 = 0
    · have hempty : octetsOf (n / 256) = [] := by rw [hsmall, octetsOf, dif_pos rfl]
      refine ⟨0, by rw [hempty, List.length_nil], ?_, ?_⟩
      · show 1 ≤ n
        omega
      · show n < 256
        omega
    · obtain ⟨k, hlength, hleast, hmost⟩ := ih (n / 256) (by omega) hsmall
      exact ⟨k + 1, by rw [hlength], (Nat.le_div_iff_mul_le (by decide)).mp hleast,
        (Nat.div_lt_iff_lt_mul (by decide)).mp hmost⟩

/-- The first octet of a positive number is not zero. -/
theorem exists_octetsOf_eq_cons {n : Nat} (hn : n ≠ 0) :
    ∃ a rest, octetsOf n = a :: rest ∧ a.toNat ≠ 0 := by
  induction n using Nat.strongRecOn with
  | ind n ih =>
    rw [octetsOf, dif_neg hn]
    by_cases hsmall : n / 256 = 0
    · have hdigit : (UInt8.ofNat (n % 256)).toNat = n := by
        rw [UInt8.toNat_ofNat']
        omega
      refine ⟨UInt8.ofNat (n % 256), [], ?_, by rwa [hdigit]⟩
      rw [hsmall, octetsOf, dif_pos rfl, List.nil_append]
    · obtain ⟨a, rest, heq, ha⟩ := ih (n / 256) (by omega) hsmall
      exact ⟨a, rest ++ [UInt8.ofNat (n % 256)], by rw [heq, List.cons_append], ha⟩

/-- A number below the limit takes at most four octets. -/
theorem length_octetsOf_le_four {n : Nat} (h : n < lengthLimit) : (octetsOf n).length ≤ 4 := by
  by_cases hn : n = 0
  · rw [hn, octetsOf, dif_pos rfl]
    decide
  · obtain ⟨k, hlength, hleast, _⟩ := octetsOf_bounds hn
    have hk : k < 4 := (Nat.pow_lt_pow_iff_right (by decide)).mp (Nat.lt_of_le_of_lt hleast h)
    omega

/-- A length is read back in front of anything. -/
theorem length?_lengthOctets {n : Nat} (h : n < lengthLimit) (rest : List UInt8) :
    length? (lengthOctets n ++ rest) = some (n, rest) := by
  by_cases hshort : n < 0x80
  · have hbyte : (UInt8.ofNat n).toNat = n := by
      rw [UInt8.toNat_ofNat']
      omega
    rw [lengthOctets, if_pos hshort, List.cons_append, List.nil_append, length?, hbyte,
      if_pos hshort]
  · have hn : n ≠ 0 := by omega
    obtain ⟨k, hlength, hleast, hmost⟩ := octetsOf_bounds hn
    have hfour := length_octetsOf_le_four h
    have hbyte : (UInt8.ofNat (0x80 + (octetsOf n).length)).toNat = 0x80 + (k + 1) := by
      rw [UInt8.toNat_ofNat', hlength]
      omega
    have hleastForm : (if k + 1 = 1 then 0x80 else Nat.pow 256 (k + 1 - 1)) ≤ n := by
      split
      · omega
      · exact hleast
    have hlong : ¬(0x80 + (k + 1) < 0x80) := by omega
    have htake : (octetsOf n ++ rest).take (k + 1) = octetsOf n := by
      rw [← hlength, List.take_left]
    have hdrop : (octetsOf n ++ rest).drop (k + 1) = rest := by
      rw [← hlength, List.drop_left]
    have hroom : ¬((octetsOf n ++ rest).length < k + 1) := by
      rw [List.length_append]
      omega
    simp only [lengthOctets, if_neg hshort, List.cons_append, length?, hbyte, if_neg hlong,
      Nat.add_sub_cancel_left, htake, hdrop, natOf_octetsOf]
    rw [if_neg]
    simp only [Bool.or_eq_true, decide_eq_true_eq, not_or]
    exact ⟨⟨⟨by omega, by omega⟩, hroom⟩, by omega⟩

/-- The length of a countable number of octets takes at most five octets. -/
theorem length_lengthOctets_le {n : Nat} (h : n < lengthLimit) :
    (lengthOctets n).length ≤ 5 := by
  have hfour := length_octetsOf_le_four h
  unfold lengthOctets
  split
  · exact Nat.le_add_left 1 4
  · rw [List.length_cons]
    omega

/-- An element in its shortest form, with an identifier of one octet. -/
structure Element.Written (e : Element) : Prop where
  octets_eq : e.octets = element e.tag e.content
  tag_lt : e.tag < 256
  /-- The identifier does not announce a longer one. -/
  tag_short : e.tag % 32 ≠ longMark
  content_lt : e.content.length < lengthLimit

/-- The element around some contents. -/
def Element.around (tag : Nat) (content : List UInt8) : Element :=
  ⟨tag, content, element tag content⟩

/-- An element around countable contents is written in the shortest form. -/
theorem Element.written_around {tag : Nat} {content : List UInt8} (htag : tag < 256)
    (hshort : tag % 32 ≠ longMark) (hcontent : content.length < lengthLimit) :
    (Element.around tag content).Written := ⟨rfl, htag, hshort, hcontent⟩

/-- The element around the octets of other elements. -/
def Element.sequenceOf (elements : List Element) : Element :=
  Element.around Tag.sequence (elements.map Element.octets).flatten

/-- A row of elements whose octets can be counted makes a sequence in the shortest form. -/
theorem Element.written_sequenceOf {elements : List Element}
    (h : (elements.map Element.octets).flatten.length < lengthLimit) :
    (Element.sequenceOf elements).Written := Element.written_around (by decide) (by decide) h

/-- An element takes at most six octets beside its contents. -/
theorem Element.Written.length_le {e : Element} (h : e.Written) :
    e.octets.length ≤ e.content.length + 6 := by
  have hlength := length_lengthOctets_le h.content_lt
  rw [h.octets_eq, element, List.length_append, List.length_cons]
  omega

/-- An element takes at least two octets. -/
theorem Element.Written.octets_ne_nil {e : Element} (h : e.Written) : e.octets ≠ [] := by
  rw [h.octets_eq, element, List.cons_append]
  exact List.cons_ne_nil _ _

/-- A short identifier is read back in front of the length. -/
theorem tag?_element {tag : Nat} (content rest : List UInt8) (htag : tag < 256)
    (hshort : tag % 32 ≠ longMark) : tag? (element tag content ++ rest) =
      some (tag, lengthOctets content.length ++ (content ++ rest)) := by
  have hbyte : (UInt8.ofNat tag).toNat = tag := by
    rw [UInt8.toNat_ofNat']
    exact Nat.mod_eq_of_lt htag
  rw [element, List.cons_append, List.cons_append, tag?, hbyte, if_neg hshort, List.append_assoc]

/-- A written element is read back in front of anything. -/
theorem Element.Written.element?_append {e : Element} (h : e.Written) (rest : List UInt8) :
    element? (e.octets ++ rest) = some (e, rest) := by
  obtain ⟨tag, content, octets⟩ := e
  obtain ⟨hoctets, htag, hshort, hcontent⟩ := h
  simp only at hoctets htag hshort hcontent
  subst hoctets
  have htagRead := tag?_element content rest htag hshort
  have hroom : ¬((content ++ rest).length < content.length) := by
    rw [List.length_append]
    omega
  have hwhole : (element tag content ++ rest).length - rest.length =
      (element tag content).length := by
    rw [List.length_append, Nat.add_sub_cancel]
  simp only [element?, htagRead, Option.bind_eq_bind, Option.bind_some,
    length?_lengthOctets hcontent, if_neg hroom, List.take_left, List.drop_left, hwhole]
  rfl

/-- A written element alone is read back. -/
theorem Element.Written.single? {e : Element} (h : e.Written) : single? e.octets = some e := by
  have hread := h.element?_append []
  rw [List.append_nil] at hread
  rw [Der.single?, hread]

/-- A row of written elements is read back. -/
theorem elements?_flatten {row : List Element} (h : ∀ e ∈ row, e.Written) {fuel : Nat}
    (hfuel : row.length ≤ fuel) :
    elements? fuel (row.map Element.octets).flatten = some row := by
  induction row generalizing fuel with
  | nil => rw [List.map_nil, List.flatten_nil, elements?]
  | cons e row ih =>
    have he := h e List.mem_cons_self
    have hrow := fun x hx => h x (List.mem_cons_of_mem e hx)
    obtain ⟨fuel, rfl⟩ : ∃ more, fuel = more + 1 := ⟨fuel - 1, by
      rw [List.length_cons] at hfuel
      omega⟩
    rw [List.length_cons] at hfuel
    have hrest := ih hrow (Nat.le_of_succ_le_succ hfuel)
    have hnonempty : e.octets ++ (row.map Element.octets).flatten ≠ [] := by
      intro hnil
      exact he.octets_ne_nil (List.append_eq_nil_iff.mp hnil).1
    rw [List.map_cons, List.flatten_cons, elements?]
    · simp only [he.element?_append, hrest, Option.bind_eq_bind, Option.bind_some]
      rfl
    · exact hnonempty

/-- A row of written elements has at least as many octets as elements. -/
theorem length_le_length_flatten {row : List Element} (h : ∀ e ∈ row, e.Written) :
    row.length ≤ (row.map Element.octets).flatten.length := by
  induction row with
  | nil => exact Nat.zero_le _
  | cons e row ih =>
    have he := List.length_pos_iff.mpr (h e List.mem_cons_self).octets_ne_nil
    have hrest := ih fun x hx => h x (List.mem_cons_of_mem e hx)
    rw [List.map_cons, List.flatten_cons, List.length_append, List.length_cons]
    omega

/-- The elements of a sequence are read back. -/
theorem Element.children?_sequenceOf {row : List Element} (h : ∀ e ∈ row, e.Written) :
    (Element.sequenceOf row).children? = some row :=
  elements?_flatten h (length_le_length_flatten h)

end InstanceLink.Der
