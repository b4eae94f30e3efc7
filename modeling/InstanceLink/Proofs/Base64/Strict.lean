import InstanceLink.Proofs.Base64.Decoding

/-!
# Which texts are read as base64

Base64 in the strict sense is a row of characters of the alphabet in groups of four, the last
group filled up by padding. Reading accepts all of it, and accepts besides any amount of padding
behind complete groups, where none is wanted; it accepts nothing else. The spare bits of a last
group are free. Written bytes are strict base64, so they are read back.
-/

namespace InstanceLink.Base64

/-- The padding that fills up the last group of so many values. -/
def filling (count : Nat) : List Char := List.replicate ((4 - count % 4) % 4) '='

/-- The characters are base64 of the bytes: the alphabet in groups, no last group of a single
character, and the padding that completes a shorter one. -/
def Strict (cs : List Char) (bytes : List UInt8) : Prop :=
  ∃ values : List Nat, (∀ v ∈ values, v < 64) ∧ values.length % 4 ≠ 1 ∧
    cs = values.map character ++ filling values.length ∧ bytes = bytesOf values

/-- The value of a character of the alphabet is the one that is written with it. -/
theorem character_of_value? {c : Char} {v : Nat} (h : value? c = some v) :
    v < 64 ∧ character v = c := by
  have hascii : c.toNat < 128 := by
    refine Nat.lt_of_not_le fun hlarge => ?_
    have hplus : c ≠ '+' := by
      rintro rfl
      exact absurd hlarge (by decide)
    have hslash : c ≠ '/' := by
      rintro rfl
      exact absurd hlarge (by decide)
    simp only [value?, Bool.and_eq_true, decide_eq_true_eq] at h
    rw [if_neg (by omega), if_neg (by omega), if_neg (by omega), if_neg hplus, if_neg hslash] at h
    contradiction
  have htable : ∀ n < 128, ∀ v ∈ value? (Char.ofNat n), v < 64 ∧ character v = Char.ofNat n := by
    decide
  have hentry := htable c.toNat hascii v
  rw [Char.ofNat_toNat] at hentry
  exact hentry h

/-- The characters of values hold no padding. -/
theorem padding_not_mem {values : List Nat} (h : ∀ v ∈ values, v < 64) :
    '=' ∉ values.map character := by
  intro hmem
  obtain ⟨v, hv, heq⟩ := List.mem_map.mp hmem
  exact (character_plain v (h v hv)).1 heq

/-- A text is characters of values, and a rest that does not go on with the alphabet. -/
theorem exists_values (cs : List Char) : ∃ (values : List Nat) (rest : List Char),
    (∀ v ∈ values, v < 64) ∧ cs = values.map character ++ rest ∧
      ∀ c, rest.head? = some c → value? c = none := by
  induction cs with
  | nil => exact ⟨[], [], by simp, rfl, by simp⟩
  | cons c cs ih =>
    cases hc : value? c with
    | none =>
      refine ⟨[], c :: cs, by simp, rfl, fun d hd => ?_⟩
      obtain rfl := Option.some.inj hd
      exact hc
    | some v =>
      obtain ⟨values, rest, hvalues, rfl, hrest⟩ := ih
      obtain ⟨hv, rfl⟩ := character_of_value? hc
      exact ⟨v :: values, rest, List.forall_mem_cons.mpr ⟨hv, hvalues⟩, rfl, hrest⟩

/-- Behind padding no data is accepted, whatever group is open. -/
theorem readFrom_padded_ne_ok {taken out : List Nat} {filled pads : Nat} {c : Char}
    {cs : List Char} (hc : c ≠ '=') : readFrom ⟨taken, filled, pads, true⟩ (c :: cs) ≠ .ok out := by
  rw [readFrom, if_neg hc]
  cases value? c <;> simp

/-- Behind complete groups and some padding, only padding may follow. -/
theorem readFrom_complete_eq_ok_iff {taken out : List Nat} {pads : Nat} {cs : List Char} :
    readFrom ⟨taken, 0, pads, true⟩ cs = .ok out ↔
      taken.reverse = out ∧ ∀ c ∈ cs, c = '=' := by
  induction cs with
  | nil => simp [readFrom]
  | cons c cs ih =>
    by_cases hc : c = '='
    · rw [readFrom, if_pos hc, if_neg (by simp), ih, List.forall_mem_cons, and_iff_right hc]
    · refine iff_of_false (readFrom_padded_ne_ok hc) ?_
      rintro ⟨-, hall⟩
      exact hc (hall c List.mem_cons_self)

/-- A single character of a group is not completed by padding. -/
theorem readFrom_lone_ne_ok {taken out : List Nat} {pads : Nat} {cs : List Char} :
    readFrom ⟨taken, 1, pads, true⟩ cs ≠ .ok out := by
  induction cs with
  | nil => simp [readFrom]
  | cons c cs ih =>
    by_cases hc : c = '='
    · rwa [readFrom, if_pos hc, if_neg (by simp)]
    · exact readFrom_padded_ne_ok hc

/-- A pair with one padding character is completed by another one. -/
theorem readFrom_pair_eq_ok_iff {taken out : List Nat} {cs : List Char} :
    readFrom ⟨taken, 2, 1, true⟩ cs = .ok out ↔ taken.reverse = out ∧ cs = ['='] := by
  cases cs with
  | nil => simp [readFrom]
  | cons c cs =>
    by_cases hc : c = '='
    · cases cs <;> simp [readFrom, hc]
    · refine iff_of_false (readFrom_padded_ne_ok hc) ?_
      rintro ⟨-, hall⟩
      exact hc (List.cons.inj hall).1

/-- What may stand behind the characters of values, by how many the open group holds: the padding
that fills it up, or any padding behind complete groups. -/
def Closes : Nat → List Char → Prop
  | 0, rest => ∀ c ∈ rest, c = '='
  | 2, rest => rest = ['=', '=']
  | 3, rest => rest = ['=']
  | _, _ => False

/-- Only padding closes a group. -/
theorem eq_of_mem_of_closes {filled : Nat} {rest : List Char} (h : Closes filled rest) :
    ∀ c ∈ rest, c = '=' := by
  match filled, h with
  | 0, h => exact h
  | 2, rfl => simp
  | 3, rfl => simp

/-- Padding closes a group when it fills it up, with a surplus behind complete groups only. -/
theorem closes_iff {count : Nat} {rest : List Char} :
    Closes (count % 4) rest ↔ count % 4 ≠ 1 ∧ ∃ surplus,
      rest = filling count ++ List.replicate surplus '=' ∧ (surplus = 0 ∨ count % 4 = 0) := by
  obtain h | h | h | h : count % 4 = 0 ∨ count % 4 = 1 ∨ count % 4 = 2 ∨ count % 4 = 3 := by omega
  · simp only [h, Closes, filling, or_true, and_true]
    refine ⟨fun hall => ⟨by decide, rest.length, List.eq_replicate_iff.mpr ⟨rfl, hall⟩⟩, ?_⟩
    rintro ⟨-, surplus, rfl⟩ c hc
    exact List.eq_of_mem_replicate hc
  · simp [h, Closes]
  · simp [h, Closes, filling, List.replicate_succ]
  · simp [h, Closes, filling]

/-- Where the alphabet ends, reading accepts what closes the open group. -/
theorem readFrom_rest_eq_ok_iff {taken out : List Nat} {filled : Nat} {rest : List Char}
    (hf : filled < 4) (hrest : ∀ c, rest.head? = some c → value? c = none) :
    readFrom ⟨taken, filled, 0, false⟩ rest = .ok out ↔
      taken.reverse = out ∧ Closes filled rest := by
  cases rest with
  | nil =>
    obtain rfl | rfl | rfl | rfl : filled = 0 ∨ filled = 1 ∨ filled = 2 ∨ filled = 3 := by omega
    all_goals simp [readFrom, Closes]
  | cons c rest =>
    by_cases hc : c = '='
    · subst hc
      rw [readFrom, if_pos rfl]
      obtain rfl | rfl | rfl | rfl : filled = 0 ∨ filled = 1 ∨ filled = 2 ∨ filled = 3 := by omega
      · rw [if_neg (by simp), readFrom_complete_eq_ok_iff]
        simp [Closes]
      · rw [if_neg (by simp)]
        exact iff_of_false readFrom_lone_ne_ok fun h => h.2
      · rw [if_pos (by simp), if_neg (by simp), readFrom_pair_eq_ok_iff]
        simp [Closes]
      · rw [if_pos (by simp), if_pos (by simp)]
        cases rest <;> simp [Closes]
    · rw [readFrom, if_neg hc, hrest c rfl]
      exact iff_of_false (by simp) fun h => hc (eq_of_mem_of_closes h.2 c List.mem_cons_self)

/-- The values of an accepted text are those of its characters of the alphabet, and behind them
stands the padding that closes the last group. -/
theorem readFrom_eq_ok_iff {cs : List Char} {out : List Nat} :
    readFrom ⟨[], 0, 0, false⟩ cs = .ok out ↔ (∀ v ∈ out, v < 64) ∧
      ∃ rest, cs = out.map character ++ rest ∧ Closes (out.length % 4) rest := by
  have hread : ∀ {values : List Nat} {rest : List Char}, (∀ v ∈ values, v < 64) →
      (∀ c, rest.head? = some c → value? c = none) →
      (readFrom ⟨[], 0, 0, false⟩ (values.map character ++ rest) = .ok out ↔
        values = out ∧ Closes (values.length % 4) rest) := by
    intro values rest hvalues hrest
    rw [readFrom_map_character hvalues [] (by decide), Nat.zero_add, List.append_nil,
      readFrom_rest_eq_ok_iff (Nat.mod_lt _ (by decide)) hrest, List.reverse_reverse]
  constructor
  · intro h
    obtain ⟨values, rest, hvalues, rfl, hrest⟩ := exists_values cs
    obtain ⟨rfl, hcloses⟩ := (hread hvalues hrest).mp h
    exact ⟨hvalues, rest, rfl, hcloses⟩
  · rintro ⟨hvalues, rest, rfl, hcloses⟩
    refine (hread hvalues fun c hc => ?_).mpr ⟨rfl, hcloses⟩
    rw [eq_of_mem_of_closes hcloses c (List.mem_of_head? hc)]
    decide

/-- Exactly strict base64 is read, with any amount of padding behind complete groups. -/
theorem decode_eq_ok_iff {cs : List Char} {bytes : List UInt8} :
    decode cs = .ok bytes ↔ ∃ core surplus, cs = core ++ List.replicate surplus '=' ∧
      Strict core bytes ∧ (surplus = 0 ∨ core ≠ [] ∧ '=' ∉ core) := by
  have hopen : decode cs = .ok bytes ↔ cs.head? ≠ some '=' ∧
      ∃ out, readFrom ⟨[], 0, 0, false⟩ cs = .ok out ∧ bytes = bytesOf out := by
    rw [decode]
    split
    next hlead => simp [hlead]
    next hlead => cases readFrom ⟨[], 0, 0, false⟩ cs <;> simp [hlead, Except.map, eq_comm]
  rw [hopen]
  constructor
  · rintro ⟨hlead, out, hout, rfl⟩
    obtain ⟨hvalues, rest, rfl, hcloses⟩ := readFrom_eq_ok_iff.mp hout
    obtain ⟨hlone, surplus, rfl, hsurplus⟩ := closes_iff.mp hcloses
    refine ⟨out.map character ++ filling out.length, surplus, (List.append_assoc _ _ _).symm,
      ⟨out, hvalues, hlone, rfl, rfl⟩, ?_⟩
    rcases Nat.eq_zero_or_pos surplus with hnone | hsome
    · exact .inl hnone
    · have hfull : filling out.length = [] := by
        simp [filling, hsurplus.resolve_left (Nat.ne_of_gt hsome)]
      rw [hfull, List.append_nil]
      refine .inr ⟨fun hnil => hlead ?_, padding_not_mem hvalues⟩
      rw [hfull, hnil, List.nil_append, List.nil_append, List.head?_replicate,
        if_neg (Nat.ne_of_gt hsome)]
  · rintro ⟨core, surplus, rfl, ⟨values, hvalues, hlone, rfl, rfl⟩, hsurplus⟩
    have hcloses : surplus = 0 ∨ values.length % 4 = 0 := by
      refine hsurplus.imp_right fun h => ?_
      have hfull : (4 - values.length % 4) % 4 = 0 := Nat.eq_zero_of_not_pos fun hopen =>
        h.2 (List.mem_append_right _ (List.mem_replicate.mpr ⟨Nat.ne_of_gt hopen, rfl⟩))
      omega
    refine ⟨?_, values, readFrom_eq_ok_iff.mpr ⟨hvalues, _, List.append_assoc _ _ _,
      closes_iff.mpr ⟨hlone, surplus, rfl, hcloses⟩⟩, rfl⟩
    cases values with
    | nil =>
      have hzero : surplus = 0 := hsurplus.resolve_right fun h => h.1 rfl
      simp [hzero, filling]
    | cons v values =>
      have hv := (character_plain v (hvalues v List.mem_cons_self)).1
      simpa using hv

/-- Strict base64 is whole groups of four. -/
theorem length_of_strict {cs : List Char} {bytes : List UInt8} (h : Strict cs bytes) :
    cs.length % 4 = 0 := by
  obtain ⟨values, -, -, rfl, -⟩ := h
  rw [List.length_append, List.length_map, filling, List.length_replicate]
  omega

/-- Strict base64 holds at most two padding characters. -/
theorem count_of_strict {cs : List Char} {bytes : List UInt8} (h : Strict cs bytes) :
    cs.count '=' ≤ 2 := by
  obtain ⟨values, hvalues, hlone, rfl, -⟩ := h
  rw [List.count_append, List.count_eq_zero.mpr (padding_not_mem hvalues), filling,
    List.count_replicate_self]
  omega

/-- What is strict base64 of bytes is read as these bytes. -/
theorem decode_of_strict {cs : List Char} {bytes : List UInt8} (h : Strict cs bytes) :
    decode cs = .ok bytes :=
  decode_eq_ok_iff.mpr ⟨cs, 0, (List.append_nil cs).symm, h, .inl rfl⟩

/-- What the encoding writes is strict base64. -/
theorem strict_encode (bytes : List UInt8) : Strict (encode bytes) bytes := by
  have hpadding : filling (sextets bytes).length = padding bytes.length := by
    have hcount : (4 - (4 * bytes.length + 2) / 3 % 4) % 4 = (3 - bytes.length % 3) % 3 := by
      obtain h | h | h : bytes.length % 3 = 0 ∨ bytes.length % 3 = 1 ∨ bytes.length % 3 = 2 := by
        omega
      all_goals omega
    rw [filling, padding, length_sextets, hcount]
  refine ⟨sextets bytes, fun v hv => lt_of_mem_sextets hv, ?_, ?_, (bytesOf_sextets bytes).symm⟩
  · rw [length_sextets]
    omega
  · rw [encode_eq, hpadding]

/-- Reading gives back the bytes that were written. -/
theorem decode_encode (bytes : List UInt8) : decode (encode bytes) = .ok bytes :=
  decode_of_strict (strict_encode bytes)

/-- Nothing beyond ASCII is read. -/
theorem toNat_lt_of_decode {cs : List Char} {bytes : List UInt8} (h : decode cs = .ok bytes) :
    ∀ c ∈ cs, c.toNat < 128 := by
  obtain ⟨core, surplus, rfl, ⟨values, hvalues, -, rfl, -⟩, -⟩ := decode_eq_ok_iff.mp h
  have hpadding : ∀ {n : Nat} {c : Char}, c ∈ List.replicate n '=' → c.toNat < 128 := by
    intro n c hc
    rw [List.eq_of_mem_replicate hc]
    decide
  intro c hc
  rcases List.mem_append.mp hc with hcore | hsurplus
  · rcases List.mem_append.mp hcore with hvalue | hfilling
    · obtain ⟨v, hv, rfl⟩ := List.mem_map.mp hvalue
      exact (character_plain v (hvalues v hv)).2
    · exact hpadding hfilling
  · exact hpadding hsurplus

end InstanceLink.Base64
