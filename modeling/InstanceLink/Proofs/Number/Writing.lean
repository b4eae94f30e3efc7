import InstanceLink.Field.WholeNumber
import Mathlib.Data.List.Induction
import Mathlib.Data.List.TakeWhile

/-!
# Writing whole numbers

A whole number that an option's text gives is written and read again as a field. Writing
drops blanks, leading zeros, underscores and the shapes of digits, so what is written never
has more digits than what was read: the field gets the same number back, whatever its size.
-/

namespace InstanceLink

namespace Number

/-- The value of digits, in the terms of the library. -/
theorem digitsValue_eq (cs : List Char) : digitsValue cs = Nat.ofDigitChars 10 cs 0 := rfl

/-- A written number has its own value. -/
theorem digitsValue_toDigits (n : Nat) : digitsValue (Nat.toDigits 10 n) = n := by
  rw [digitsValue_eq, Nat.ofDigitChars_ten_toDigits]

/-- Written digits are digits. -/
theorem isDigit_of_mem_toDigits {n : Nat} {c : Char} (h : c ∈ Nat.toDigits 10 n) :
    c.isDigit = true :=
  Nat.isDigit_of_mem_toDigits (by decide) (by decide) h

/-- Only zero is written with a zero in front. -/
theorem head?_toDigits {n : Nat} (h : (Nat.toDigits 10 n).head? = some '0') : n = 0 := by
  induction n using Nat.strongRecOn with
  | _ n ih =>
    rw [Nat.toDigits_eq_if (by decide)] at h
    split at h
    · rename_i hsmall
      rw [List.head?_cons, Option.some.injEq, Nat.digitChar_eq_zero] at h
      exact h
    · rename_i hlarge
      cases hhead : (Nat.toDigits 10 (n / 10)).head? with
      | none => exact absurd (List.head?_eq_none_iff.mp hhead) Nat.toDigits_ne_nil
      | some c =>
        rw [List.head?_append, hhead, Option.some_or] at h
        have hfront := ih (n / 10) (by omega) (hhead.trans h)
        omega

/-- A written number of several digits has no zero in front. -/
theorem head?_toDigits_ne {n : Nat} (h : 1 < (Nat.toDigits 10 n).length) :
    (Nat.toDigits 10 n).head? ≠ some '0' := by
  intro hzero
  rw [head?_toDigits hzero] at h
  exact absurd h (by decide)

/-- The value of a row of digits is written with no more digits than the row has. -/
theorem digitsValue_lt {cs : List Char} (h : ∀ c ∈ cs, c.isDigit = true) :
    digitsValue cs < Nat.pow 10 cs.length := by
  induction cs using List.reverseRecOn with
  | nil => decide
  | append_singleton front c ih =>
    have hfront := ih fun d hd => h d (List.mem_append_left _ hd)
    have hdigit := h c (by simp)
    simp only [Char.isDigit, Bool.and_eq_true, decide_eq_true_eq] at hdigit
    have hlast : c.toNat - 48 < 10 := by
      have := hdigit.2
      rw [UInt32.le_iff_toNat_le] at this
      change c.toNat ≤ 57 at this
      omega
    have hvalue : digitsValue (front ++ [c]) = 10 * digitsValue front + (c.toNat - 48) := by
      simp only [digitsValue, List.foldl_append, List.foldl_cons, List.foldl_nil]
    have hpow : Nat.pow 10 (front.length + 1) = Nat.pow 10 front.length * 10 := rfl
    rw [hvalue, List.length_append, List.length_singleton, hpow]
    omega

/-- A row of digits is not written longer than it is. -/
theorem length_toDigits_digitsValue {cs : List Char} (h : ∀ c ∈ cs, c.isDigit = true) {n : Nat}
    (hpos : 0 < n) (hlength : cs.length ≤ n) :
    (Nat.toDigits 10 (digitsValue cs)).length ≤ n := by
  have hpow : Nat.pow 10 cs.length ≤ Nat.pow 10 n := Nat.pow_le_pow_right (by decide) hlength
  exact (Nat.length_toDigits_le_iff (by decide) hpos).mpr
    (Nat.lt_of_lt_of_le (digitsValue_lt h) hpow)

/-- The run at the front of a text is made of digits. -/
theorem isDigit_of_mem_digitRun (cs : List Char) : ∀ c ∈ (digitRun cs).1, c.isDigit = true := by
  fun_induction digitRun cs with
  | case1 c d rest hdigits run tail hrun ih =>
    rw [hrun] at ih
    simp only [Bool.and_eq_true] at hdigits
    exact List.forall_mem_cons.mpr ⟨hdigits.1, ih⟩
  | case2 c d rest _ hdigit => simpa using hdigit
  | case3 c d rest _ _ => simp
  | case4 c rest _ hdigit run tail hrun ih =>
    rw [hrun] at ih
    exact List.forall_mem_cons.mpr ⟨hdigit, ih⟩
  | case5 c rest _ _ => simp
  | case6 => simp

/-- The greatest number of digits that a number may be written with is not zero. -/
theorem digitLimit_pos : 0 < digitLimit := by decide

/-- A number that a text gives is written with no more digits than the text may have. -/
theorem length_toDigits_of_readInt? {s : String} {n : Int} (h : readInt? s = some n) :
    (Nat.toDigits 10 n.natAbs).length ≤ digitLimit := by
  unfold readInt? at h
  split at h
  rename_i negative body _
  split at h
  · rename_i run hrun
    split at h
    · contradiction
    · rename_i hlength
      simp only [Bool.or_eq_true, decide_eq_true_eq, not_or, not_lt] at hlength
      have hdigits := isDigit_of_mem_digitRun body
      rw [hrun] at hdigits
      have hvalue : n.natAbs = digitsValue run := by
        cases h
        cases negative <;> simp
      rw [hvalue]
      exact length_toDigits_digitsValue hdigits digitLimit_pos hlength.2
  · contradiction

end Number

namespace WholeNumber

/-- Written digits behind a sign are read as what they stand for, unless they are too many. -/
theorem readPlain_toDigits (n : Nat) (h : (Nat.toDigits 10 n).length ≤ Number.digitLimit) :
    readPlain (Nat.toDigits 10 n) = .ok n ∧ readPlain ('-' :: Nat.toDigits 10 n) = .ok (-n) := by
  have hrun : (Nat.toDigits 10 n).takeWhile Char.isDigit = Nat.toDigits 10 n :=
    List.takeWhile_eq_self_iff.mpr fun _ => Number.isDigit_of_mem_toDigits
  have hempty : (Nat.toDigits 10 n).isEmpty = false :=
    List.isEmpty_eq_false_iff.mpr Nat.toDigits_ne_nil
  have hzero : (decide ((Nat.toDigits 10 n).head? = some '0') &&
      decide (1 < (Nat.toDigits 10 n).length)) = false := by
    rw [Bool.and_eq_false_iff, decide_eq_false_iff_not, decide_eq_false_iff_not]
    by_cases hlong : 1 < (Nat.toDigits 10 n).length
    · exact .inl (Number.head?_toDigits_ne hlong)
    · exact .inr hlong
  have hunsigned : ∀ rest, Nat.toDigits 10 n ≠ '-' :: rest := by
    intro rest hrest
    have hdigit : '-'.isDigit = true :=
      Number.isDigit_of_mem_toDigits (n := n) (by rw [hrest]; exact List.mem_cons_self)
    contradiction
  constructor
  · unfold readPlain
    split
    rename_i negative body hsplit
    split at hsplit
    · rename_i rest hrest
      exact absurd hrest (hunsigned rest)
    · cases hsplit
      simp only [hrun, hempty, hzero, Bool.false_eq_true, if_false, Nat.not_lt.mpr h, lt_irrefl,
        Number.digitsValue_toDigits]
  · simp only [readPlain, hrun, hempty, hzero, Bool.false_eq_true, if_false, Nat.not_lt.mpr h,
      lt_irrefl, Number.digitsValue_toDigits, if_true]

/-- A written whole number is read back, unless it has too many digits. -/
theorem read_toString {n : Int} (h : (Nat.toDigits 10 n.natAbs).length ≤ Number.digitLimit) :
    read (toString n) = .ok n := by
  have hplain : readPlain (toString n).toList = .ok n := by
    rw [Int.toString_eq_repr, Int.repr_eq_if]
    split
    · rename_i hsign
      have habs : n.toNat = n.natAbs := by omega
      rw [Nat.toList_repr, habs, (readPlain_toDigits _ h).1, Int.natAbs_of_nonneg hsign]
    · rename_i hsign
      have habs : (-n).toNat = n.natAbs := by omega
      have hvalue : -(n.natAbs : Int) = n := by omega
      rw [String.toList_append, Nat.toList_repr, habs]
      exact (readPlain_toDigits _ h).2.trans (by rw [hvalue])
  rw [read, hplain]

/-- A whole number that an option's text gives is read back from its writing. -/
theorem read_toString_of_readInt? {s : String} {n : Int} (h : Number.readInt? s = some n) :
    read (toString n) = .ok n :=
  read_toString (Number.length_toDigits_of_readInt? h)

end WholeNumber

end InstanceLink
