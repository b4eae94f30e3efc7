import InstanceLink.Proofs.Der.Written

/-!
# Reading written contents

Natural numbers of any size and whole octets of bits are read back from the contents that
are written for them.
-/

namespace InstanceLink.Der

/-- The contents of a natural number's element. -/
def naturalContent (n : Nat) : List UInt8 :=
  match octetsOf n with
  | [] => [0]
  | a :: _ => if 0x80 ≤ a.toNat then 0 :: octetsOf n else octetsOf n

/-- The element of a natural number. -/
def Element.ofNatural (n : Nat) : Element := Element.around Tag.integer (naturalContent n)

/-- A zero octet in front does not count. -/
theorem natOf_zero_cons (bytes : List UInt8) : natOf (0 :: bytes) = natOf bytes := rfl

/-- The contents of a natural number are its octets, with a zero octet where they would be
none or read as negative. -/
theorem naturalContent_cases (n : Nat) :
    (n = 0 ∧ naturalContent n = [0]) ∨
      ∃ a rest, octetsOf n = a :: rest ∧
        ((0x80 ≤ a.toNat ∧ naturalContent n = 0 :: a :: rest) ∨
          (a.toNat ≠ 0 ∧ a.toNat < 0x80 ∧ naturalContent n = a :: rest)) := by
  by_cases hn : n = 0
  · refine .inl ⟨hn, ?_⟩
    rw [naturalContent, hn, octetsOf, dif_pos rfl]
  · obtain ⟨a, rest, hoctets, ha⟩ := exists_octetsOf_eq_cons hn
    refine .inr ⟨a, rest, hoctets, ?_⟩
    by_cases hsign : 0x80 ≤ a.toNat
    · exact .inl ⟨hsign, by simp only [naturalContent, hoctets, if_pos hsign]⟩
    · exact .inr ⟨ha, by omega, by simp only [naturalContent, hoctets, if_neg hsign]⟩

/-- The contents of a natural number have its value. -/
theorem natOf_naturalContent (n : Nat) : natOf (naturalContent n) = n := by
  have hvalue := natOf_octetsOf n
  rcases naturalContent_cases n with ⟨rfl, heq⟩ | ⟨a, rest, hoctets, ⟨_, heq⟩ | ⟨_, _, heq⟩⟩
  · rw [heq]
    rfl
  · rw [heq, natOf_zero_cons, ← hoctets, hvalue]
  · rw [heq, ← hoctets, hvalue]

/-- The contents of a natural number are in the shortest form. -/
theorem isInteger_naturalContent (n : Nat) : isInteger (naturalContent n) = true := by
  rcases naturalContent_cases n with ⟨_, heq⟩ | ⟨a, rest, _, ⟨hsign, heq⟩ | ⟨ha, hsign, heq⟩⟩
  · rw [heq]
    rfl
  · rw [heq, isInteger]
    have hlarge : ¬(a.toNat < 0x80) := by omega
    simp [hlarge]
  · rw [heq]
    cases rest with
    | nil => rfl
    | cons b rest =>
      have hmost : a.toNat ≠ 0xff := by omega
      simp [isInteger, ha, hmost]

/-- The contents of a natural number do not read as negative. -/
theorem integerValue_naturalContent (n : Nat) : integerValue (naturalContent n) = n := by
  have hvalue := natOf_naturalContent n
  rcases naturalContent_cases n with ⟨_, heq⟩ | ⟨a, rest, _, ⟨_, heq⟩ | ⟨_, hsign, heq⟩⟩
  · rw [heq] at hvalue ⊢
    rw [integerValue, if_neg (by decide), hvalue]
  · rw [heq] at hvalue ⊢
    rw [integerValue, if_neg (by decide), hvalue]
  · rw [heq] at hvalue ⊢
    rw [integerValue, if_neg (by omega), hvalue]

/-- A natural number is read back from its element. -/
theorem Element.natural?_ofNatural (n : Nat) : (Element.ofNatural n).natural? = some n := by
  have hcontent : (Element.ofNatural n).content = naturalContent n := rfl
  rw [Element.natural?, hcontent, natOf_naturalContent, integerValue_naturalContent,
    isInteger_naturalContent, if_pos]
  simp [Element.ofNatural, Element.around]

/-- The contents of a natural number take one octet for eight bits, and at most two more. -/
theorem length_naturalContent_le (n : Nat) : (naturalContent n).length ≤ n.log2 / 8 + 2 := by
  rcases naturalContent_cases n with ⟨_, heq⟩ | ⟨a, rest, hoctets, hcases⟩
  · rw [heq]
    exact Nat.le_add_left 1 _
  · have hn : n ≠ 0 := by
      rintro rfl
      rw [octetsOf, dif_pos rfl] at hoctets
      contradiction
    obtain ⟨k, hlength, hleast, _⟩ := octetsOf_bounds hn
    have hbits : 8 * k ≤ n.log2 := by
      refine (Nat.le_log2 hn).mpr ?_
      rw [Nat.pow_mul]
      exact hleast
    rw [hoctets, List.length_cons] at hlength
    rcases hcases with ⟨_, heq⟩ | ⟨_, _, heq⟩ <;> rw [heq] <;> simp only [List.length_cons] <;>
      omega

/-- Whole octets are read back as bits. -/
theorem bitString?_zero_cons (octets : List UInt8) :
    bitString? (0 :: octets) = some ⟨0, octets⟩ := by
  have hnone : ¬((7 < (0 : UInt8).toNat || (octets.isEmpty && (0 : UInt8).toNat != 0)) = true) := by
    simp
  rw [bitString?]
  simp only [if_neg hnone]
  cases octets.getLast? with
  | none => rfl
  | some last =>
    have hwhole : last.toNat % Nat.pow 2 (0 : UInt8).toNat = 0 := Nat.mod_one _
    simp only [if_pos hwhole]
    rfl

/-- Whole octets of bits are read back from their element. -/
theorem Element.bitString?_around (octets : List UInt8) :
    (Element.around Tag.bitString (0 :: octets)).bitString? = some ⟨0, octets⟩ :=
  bitString?_zero_cons octets

end InstanceLink.Der
