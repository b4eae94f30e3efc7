import InstanceLink.Base64.Reader

/-!
# Written base64

What the encoding writes is the characters of six-bit values with padding behind them; the bytes
are put together again from these values, and reading takes their characters in one by one.
-/

namespace InstanceLink.Base64

/-- The six-bit values that the encoding of bytes writes. -/
def sextets : List UInt8 → List Nat
  | [] => []
  | [a] => [a.toNat / 4, a.toNat % 4 * 16]
  | [a, b] =>
    let n := 256 * a.toNat + b.toNat
    [n / 1024, n / 16 % 64, n % 16 * 4]
  | a :: b :: c :: rest =>
    let n := 65536 * a.toNat + 256 * b.toNat + c.toNat
    n / 262144 :: n / 4096 % 64 :: n / 64 % 64 :: n % 64 :: sextets rest

/-- The padding behind the encoding of so many bytes. -/
def padding (count : Nat) : List Char := List.replicate ((3 - count % 3) % 3) '='

/-- Three bytes more leave the padding as it is. -/
theorem padding_add_three (count : Nat) : padding (count + 3) = padding count := by
  rw [padding, padding, Nat.add_mod_right]

/-- The encoding writes the characters of the six-bit values, and the padding. -/
theorem encode_eq (bytes : List UInt8) :
    encode bytes = (sextets bytes).map character ++ padding bytes.length := by
  fun_induction encode bytes with
  | case1 => rfl
  | case2 a n => rfl
  | case3 a b n => rfl
  | case4 a b c rest n ih => simp [sextets, ih, padding_add_three, n]

/-- The values written are six-bit values. -/
theorem lt_of_mem_sextets {bytes : List UInt8} {v : Nat} (h : v ∈ sextets bytes) : v < 64 := by
  fun_induction sextets bytes with
  | case1 => contradiction
  | case2 a =>
    have ha := a.toNat_lt
    simp only [List.mem_cons, List.not_mem_nil, or_false] at h
    omega
  | case3 a b n =>
    have ha := a.toNat_lt
    have hb := b.toNat_lt
    simp only [List.mem_cons, List.not_mem_nil, or_false, n] at h
    omega
  | case4 a b c rest n ih =>
    have ha := a.toNat_lt
    have hb := b.toNat_lt
    have hc := c.toNat_lt
    simp only [List.mem_cons, n] at h
    rcases h with h | h | h | h | h
    · omega
    · omega
    · omega
    · omega
    · exact ih h

/-- Each group of three bytes is written with four values, a last group with one value more
than it has bytes. -/
theorem length_sextets (bytes : List UInt8) :
    (sextets bytes).length = (4 * bytes.length + 2) / 3 := by
  fun_induction sextets bytes with
  | case1 => rfl
  | case2 a => simp only [List.length_cons, List.length_nil]
  | case3 a b n => simp only [List.length_cons, List.length_nil]
  | case4 a b c rest n ih =>
    simp only [List.length_cons, ih]
    omega

/-- The bytes are put together again from the values written for them. -/
theorem bytesOf_sextets (bytes : List UInt8) : bytesOf (sextets bytes) = bytes := by
  have octet : ∀ (b : UInt8) (n : Nat), n % 256 = b.toNat → UInt8.ofNat n = b := by
    intro b n h
    apply UInt8.toNat_inj.mp
    rw [UInt8.toNat_ofNat']
    exact h
  fun_induction sextets bytes with
  | case1 => rfl
  | case2 a =>
    have ha := a.toNat_lt
    rw [bytesOf, octet a _ (by omega)]
  | case3 a b n =>
    have ha := a.toNat_lt
    have hb := b.toNat_lt
    simp only [bytesOf]
    rw [octet a _ (by omega), octet b _ (by omega)]
  | case4 a b c rest n ih =>
    have ha := a.toNat_lt
    have hb := b.toNat_lt
    have hc := c.toNat_lt
    simp only [bytesOf, ih]
    rw [octet a _ (by omega), octet b _ (by omega), octet c _ (by omega)]

/-- No character of the alphabet is padding or beyond ASCII. -/
theorem character_plain : ∀ v < 64, character v ≠ '=' ∧ (character v).toNat < 128 := by decide

/-- What holds of the alphabet and of padding holds of all characters that are written. -/
theorem forall_mem_encode {P : Char → Prop} (halphabet : ∀ v < 64, P (character v))
    (hpadding : P '=') (bytes : List UInt8) : ∀ c ∈ encode bytes, P c := by
  intro c h
  rw [encode_eq, List.mem_append, List.mem_map] at h
  rcases h with ⟨v, hv, rfl⟩ | h
  · exact halphabet v (lt_of_mem_sextets hv)
  · rw [List.eq_of_mem_replicate h]
    exact hpadding

/-- Before any padding, the characters of values are taken in one by one. -/
theorem readFrom_map_character {values : List Nat} (h : ∀ v ∈ values, v < 64)
    (taken : List Nat) {filled : Nat} (hf : filled < 4) (rest : List Char) :
    readFrom ⟨taken, filled, 0, false⟩ (values.map character ++ rest) =
      readFrom ⟨values.reverse ++ taken, (filled + values.length) % 4, 0, false⟩ rest := by
  induction values generalizing taken filled with
  | nil => simp [Nat.mod_eq_of_lt hf]
  | cons v values ih =>
    have hv := h v List.mem_cons_self
    have hrest := fun w hw => h w (List.mem_cons_of_mem v hw)
    rw [List.map_cons, List.cons_append, readFrom, if_neg (character_plain v hv).1,
      value?_character v hv]
    simp only [Bool.false_eq_true, if_false]
    rw [ih hrest _ (Nat.mod_lt _ (by decide))]
    simp only [List.reverse_cons, List.append_assoc, List.singleton_append, List.length_cons,
      Nat.mod_add_mod, Nat.add_assoc, Nat.add_comm 1]

end InstanceLink.Base64
