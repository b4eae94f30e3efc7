import InstanceLink.Der.Normal
import InstanceLink.Proofs.Der.Written
import Mathlib.Data.List.Induction
import Mathlib.Tactic.Ring

/-!
# Elements in their shortest form

Strict reading accepts nothing but the shortest form: what it reads is what would be written for
the element. So the general form, read after such an element has been brought into its shortest
form, gives the same element.
-/

namespace InstanceLink.Der

/-- A first octet counts by the number of octets behind it. -/
theorem natOf_cons (b : UInt8) (bytes : List UInt8) :
    natOf (b :: bytes) = b.toNat * 256 ^ bytes.length + natOf bytes := by
  induction bytes using List.reverseRecOn with
  | nil => simp [natOf]
  | append_singleton bytes c ih =>
    rw [← List.cons_append, natOf_append_singleton, natOf_append_singleton, ih,
      List.length_append, List.length_singleton, Nat.pow_succ]
    ring

/-- The value of octets is below the power of their number. -/
theorem natOf_lt (bytes : List UInt8) : natOf bytes < 256 ^ bytes.length := by
  induction bytes with
  | nil => simp [natOf]
  | cons b bytes ih =>
    have hb := b.toNat_lt
    have hbound : (b.toNat + 1) * 256 ^ bytes.length ≤ 256 * 256 ^ bytes.length :=
      Nat.mul_le_mul_right _ (by omega)
    rw [natOf_cons, List.length_cons, Nat.pow_succ']
    rw [Nat.add_mul, Nat.one_mul] at hbound
    omega

/-- Octets without a leading zero are those of their value. -/
theorem octetsOf_natOf {bytes : List UInt8} (h : bytes.head? ≠ some 0) :
    octetsOf (natOf bytes) = bytes := by
  induction bytes using List.reverseRecOn with
  | nil => rw [octetsOf]; exact dif_pos rfl
  | append_singleton bytes c ih =>
    have hc := c.toNat_lt
    have hdiv : (256 * natOf bytes + c.toNat) / 256 = natOf bytes := by omega
    have hmod : UInt8.ofNat ((256 * natOf bytes + c.toNat) % 256) = c := by
      rw [Nat.mul_add_mod, Nat.mod_eq_of_lt hc, UInt8.ofNat_toNat]
    have hpositive : 256 * natOf bytes + c.toNat ≠ 0 := by
      cases bytes with
      | nil =>
        have hc0 : c.toNat ≠ 0 := fun hzero => h (congrArg some (UInt8.toNat_inj.mp hzero))
        omega
      | cons b bytes =>
        have hb0 : b.toNat ≠ 0 := fun hzero => h (congrArg some (UInt8.toNat_inj.mp hzero))
        have hpower : 0 < b.toNat * 256 ^ bytes.length :=
          Nat.mul_pos (Nat.pos_of_ne_zero hb0) (Nat.pow_pos (by decide))
        rw [natOf_cons]
        omega
    have hhead : bytes.head? ≠ some 0 := by
      intro hzero
      rw [List.head?_append, hzero] at h
      exact h rfl
    rw [natOf_append_singleton, octetsOf, dif_neg hpositive, hdiv, hmod, ih hhead]

/-- The least value that is counted with so many octets. -/
def leastLength (size : Nat) : Nat := if size = 1 then 0x80 else Nat.pow 256 (size - 1)

/-- A value that needs all its octets has no leading zero, and one octet alone would not do. -/
theorem octetsOf_natOf_of_le {bytes : List UInt8} (hne : bytes ≠ [])
    (h : leastLength bytes.length ≤ natOf bytes) :
    octetsOf (natOf bytes) = bytes ∧ 0x80 ≤ natOf bytes := by
  rw [leastLength] at h
  constructor
  · refine octetsOf_natOf fun hzero => ?_
    obtain ⟨tail, rfl⟩ := List.head?_eq_some_iff.mp hzero
    have hsmall : natOf (0 :: tail) < 256 ^ tail.length := natOf_lt tail
    split at h
    next hone =>
      rw [List.length_eq_zero_iff.mp (Nat.succ.inj hone)] at h
      exact absurd h (by decide)
    next => exact absurd h (Nat.not_le_of_lt hsmall)
  · split at h
    next => exact h
    next hmore =>
      have hlength := List.length_pos_iff.mpr hne
      have hpower : 256 ^ 1 ≤ Nat.pow 256 (bytes.length - 1) :=
        Nat.pow_le_pow_right (by decide) (by omega)
      omega

/-- A length that is read is the one that would be written. -/
theorem eq_of_length? {bytes rest : List UInt8} {n : Nat} (h : length? bytes = some (n, rest)) :
    bytes = lengthOctets n ++ rest ∧ n < lengthLimit := by
  match bytes, h with
  | b :: behind, h =>
    have hb := b.toNat_lt
    simp only [length?] at h
    split at h
    next hshort =>
      cases h
      rw [lengthOctets, if_pos hshort, UInt8.ofNat_toNat]
      exact ⟨rfl, Nat.lt_trans hshort (by decide)⟩
    next hlong =>
      obtain ⟨size, hsize⟩ : ∃ size, b.toNat = 0x80 + size := ⟨b.toNat - 0x80, by omega⟩
      simp only [hsize, Nat.add_sub_cancel_left, Option.ite_none_left_eq_some, Option.some.injEq,
        Prod.mk.injEq, Bool.or_eq_true, decide_eq_true_eq, not_or] at h
      obtain ⟨⟨⟨⟨hsome, hfour⟩, hroom⟩, hleast⟩, rfl, rfl⟩ := h
      have hlength : (behind.take size).length = size := by
        rw [List.length_take]
        omega
      have hne : behind.take size ≠ [] := List.ne_nil_of_length_pos (by omega)
      obtain ⟨hoctets, hlarge⟩ := octetsOf_natOf_of_le hne (by
        rw [hlength]
        exact Nat.le_of_not_lt hleast)
      have hmost := natOf_lt (behind.take size)
      have hlimit : 256 ^ (behind.take size).length ≤ lengthLimit :=
        Nat.pow_le_pow_right (n := 256) (by decide) (by omega : (behind.take size).length ≤ 4)
      refine ⟨?_, by omega⟩
      simp only [lengthOctets, if_neg (Nat.not_lt_of_le hlarge), hoctets, hlength, ← hsize,
        UInt8.ofNat_toNat, List.cons_append, List.take_append_drop]

/-- A short identifier is the first octet. -/
theorem eq_of_tag? {bytes rest : List UInt8} {tag : Nat} (h : tag? bytes = some (tag, rest))
    (hshort : tag < 256) : tag % 32 ≠ longMark ∧ bytes = UInt8.ofNat tag :: rest := by
  match bytes, h with
  | b :: behind, h =>
    simp only [tag?] at h
    split at h
    next =>
      -- A long identifier counts at least thirty-one times 256.
      simp only [Option.bind_eq_bind, Option.bind_eq_some_iff, Prod.exists,
        Option.ite_none_left_eq_some, Option.pure_def, Option.some.injEq, Prod.mk.injEq,
        Bool.or_eq_true, decide_eq_true_eq, not_or] at h
      obtain ⟨number, after, -, hnumber, rfl, -⟩ := h
      rw [longMark] at hnumber
      omega
    next hmark =>
      cases h
      exact ⟨hmark, by rw [UInt8.ofNat_toNat]⟩

/-- What is read with a short identifier is an element in its shortest form, in front of what is
left. -/
theorem Element.written_of_element? {bytes rest : List UInt8} {e : Element}
    (h : element? bytes = some (e, rest)) (hshort : e.tag < 256) :
    e.Written ∧ bytes = e.octets ++ rest := by
  simp only [element?, Option.bind_eq_bind, Option.bind_eq_some_iff, Prod.exists,
    Option.ite_none_left_eq_some, Option.pure_def, Option.some.injEq, Prod.mk.injEq] at h
  obtain ⟨tag, behind, htag, size, inner, hlength, hroom, rfl, rfl⟩ := h
  obtain ⟨hmark, rfl⟩ := eq_of_tag? htag hshort
  obtain ⟨rfl, hlimit⟩ := eq_of_length? hlength
  have hcontent : (inner.take size).length = size := by
    rw [List.length_take]
    omega
  have hwhole : UInt8.ofNat tag :: (lengthOctets size ++ inner) =
      element tag (inner.take size) ++ inner.drop size := by
    rw [element, hcontent, List.cons_append, List.cons_append, List.append_assoc,
      List.take_append_drop]
  have hoctets : (UInt8.ofNat tag :: (lengthOctets size ++ inner)).take
      ((UInt8.ofNat tag :: (lengthOctets size ++ inner)).length - (inner.drop size).length) =
      element tag (inner.take size) := by
    rw [hwhole, List.length_append, Nat.add_sub_cancel, List.take_left]
  refine ⟨⟨hoctets, hshort, hmark, by rwa [hcontent]⟩, ?_⟩
  dsimp only
  rw [hoctets, hwhole]

/-- The only element of some octets is in its shortest form and takes all of them. -/
theorem Element.written_of_single? {bytes : List UInt8} {e : Element} (h : single? bytes = some e)
    (hshort : e.tag < 256) : e.Written ∧ bytes = e.octets := by
  unfold single? at h
  split at h
  next found hread =>
    cases h
    rw [← List.append_nil e.octets]
    exact Element.written_of_element? hread hshort
  next => contradiction

/-- A row of elements that is read is in its shortest form and fills the octets. -/
theorem Element.written_of_elements? {fuel : Nat} {bytes : List UInt8} {row : List Element}
    (h : elements? fuel bytes = some row) (hshort : ∀ e ∈ row, e.tag < 256) :
    (∀ e ∈ row, e.Written) ∧ bytes = (row.map Element.octets).flatten := by
  fun_induction elements? fuel bytes generalizing row with
  | case1 fuel =>
    cases h
    exact ⟨by simp, rfl⟩
  | case2 => contradiction
  | case3 fuel bytes hne ih =>
    simp only [Option.bind_eq_bind, Option.bind_eq_some_iff, Prod.exists, Option.pure_def,
      Option.some.injEq] at h
    obtain ⟨e, rest, hread, others, hothers, rfl⟩ := h
    obtain ⟨he, hrow⟩ := List.forall_mem_cons.mp hshort
    obtain ⟨hwritten, rfl⟩ := Element.written_of_element? hread he
    obtain ⟨hall, rfl⟩ := ih rest hothers hrow
    exact ⟨List.forall_mem_cons.mpr ⟨hwritten, hall⟩, rfl⟩

/-- A length in its shortest form is read in the general form too. -/
theorem anyLength?_of_length? {bytes rest : List UInt8} {n : Nat}
    (h : length? bytes = some (n, rest)) : anyLength? bytes = some (some n, rest) := by
  match bytes, h with
  | b :: behind, h =>
    simp only [length?] at h
    simp only [anyLength?]
    split at h
    next hshort =>
      cases h
      rw [if_pos hshort]
    next hlong =>
      simp only [Option.ite_none_left_eq_some, Option.some.injEq, Prod.mk.injEq, Bool.or_eq_true,
        decide_eq_true_eq, not_or] at h
      obtain ⟨⟨⟨⟨hsome, -⟩, hroom⟩, -⟩, rfl, rfl⟩ := h
      rw [if_neg hlong, if_neg (by omega), if_neg hroom]

/-- An element in its shortest form stays as it is, provided that what is inside it does. -/
theorem Element.Written.shortest?_append {e : Element} (h : e.Written) {fuel : Nat}
    (hinner : isConstructed e.tag = true → shortestRun? fuel false e.content = some (e.content, []))
    (rest : List UInt8) : shortest? (fuel + 1) (e.octets ++ rest) = some (e.octets, rest) := by
  obtain ⟨tag, content, octets⟩ := e
  obtain ⟨hoctets, htag, hmark, hcontent⟩ := h
  simp only at hoctets htag hmark hcontent hinner
  subst hoctets
  have hlength := anyLength?_of_length? (length?_lengthOctets hcontent (content ++ rest))
  have hroom : ¬((content ++ rest).length < content.length) := by
    rw [List.length_append]
    omega
  have hidentifier : (element tag content ++ rest).take ((element tag content ++ rest).length -
      (lengthOctets content.length ++ (content ++ rest)).length) = [UInt8.ofNat tag] := by
    rw [element, List.cons_append, List.cons_append, List.append_assoc, List.length_cons,
      Nat.add_sub_cancel_left, List.take_succ_cons, List.take_zero]
  have hkept : (if isConstructed tag = true then
      (shortestRun? fuel false content).elim content Prod.fst else content) = content := by
    split
    next hconstructed => rw [hinner hconstructed, Option.elim_some]
    next => rfl
  rw [shortest?]
  simp only [tag?_element content rest htag hmark, hidentifier, hlength, if_neg hroom,
    List.take_left, List.drop_left, hkept, Option.bind_eq_bind, Option.bind_some]
  rfl

/-- A row of elements without others inside stays as it is. -/
theorem shortestRun?_flatten {row : List Element} (h : ∀ e ∈ row, e.Written)
    (hplain : ∀ e ∈ row, isConstructed e.tag = false) {fuel : Nat} (hfuel : row.length < fuel) :
    shortestRun? fuel false (row.map Element.octets).flatten =
      some ((row.map Element.octets).flatten, []) := by
  induction row generalizing fuel with
  | nil =>
    obtain ⟨more, rfl⟩ := Nat.exists_eq_add_one_of_ne_zero (Nat.ne_of_gt hfuel)
    rw [List.map_nil, List.flatten_nil, shortestRun?]
    rfl
  | cons e row ih =>
    obtain ⟨he, hrow⟩ := List.forall_mem_cons.mp h
    obtain ⟨hflat, hothers⟩ := List.forall_mem_cons.mp hplain
    rw [List.length_cons] at hfuel
    obtain ⟨more, rfl⟩ : ∃ more, fuel = more + 1 + 1 := ⟨fuel - 2, by omega⟩
    have hfirst : shortest? (more + 1) (e.octets ++ (row.map Element.octets).flatten) =
        some (e.octets, (row.map Element.octets).flatten) :=
      he.shortest?_append (fun hconstructed => absurd hconstructed (by simp [hflat])) _
    have hrest := ih hrow hothers (by omega : row.length < more + 1)
    have hnonempty : (e.octets ++ (row.map Element.octets).flatten).isEmpty = false := by
      simp [he.octets_ne_nil]
    rw [List.map_cons, List.flatten_cons, shortestRun?, hnonempty]
    simp only [hfirst, hrest, Bool.false_and,
      Bool.false_eq_true, if_false, Option.bind_eq_bind, Option.bind_some]
    rfl

/-- An element whose inner elements hold no others is the same in the general form, whatever
stands behind it. -/
theorem Element.Written.generalElement?_append {e : Element} (h : e.Written) {row : List Element}
    (hrow : e.children? = some row) (hshort : ∀ c ∈ row, c.tag < 256)
    (hplain : ∀ c ∈ row, isConstructed c.tag = false) (rest : List UInt8) :
    generalElement? (e.octets ++ rest) = some e := by
  obtain ⟨hwritten, hcontent⟩ := Element.written_of_elements? hrow hshort
  have hlonger : e.content.length < e.octets.length := by
    rw [h.octets_eq, element, List.length_append, List.length_cons]
    omega
  have hfuel : row.length < 2 * (e.octets ++ rest).length := by
    have hlength := length_le_length_flatten hwritten
    rw [← hcontent] at hlength
    rw [List.length_append]
    omega
  have hinner := shortestRun?_flatten hwritten hplain hfuel
  rw [← hcontent] at hinner
  have hread := h.element?_append []
  rw [List.append_nil] at hread
  simp only [generalElement?, h.shortest?_append (fun _ => hinner) rest, hread,
    Option.bind_eq_bind, Option.bind_some]
  rfl

end InstanceLink.Der
