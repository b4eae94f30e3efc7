import InstanceLink.Console.Wrap
import Mathlib.Data.List.Basic

/-!
# Texts cut to a number of cells

Halving finds the one place where a text can be cut to the cells it is given, or the wide
character that lies across it. What is cut takes exactly those cells, and characters of one
cell each at its front stay as long as there are cells for them.
-/

namespace InstanceLink.Console

/-- An empty text takes no cell. -/
theorem cells_nil : cells [] = 0 := rfl

/-- The first character takes its cells before the others. -/
theorem cells_cons (c : Char) (cs : List Char) : cells (c :: cs) = cellsOf c + cells cs := rfl

/-- One more character takes its own cells. -/
theorem cells_take_succ {cs : List Char} {n : Nat} (h : n < cs.length) :
    cells (cs.take (n + 1)) = cells (cs.take n) + cellsOf cs[n] := by
  rw [List.take_succ_eq_append_getElem h, cells_append, cells_cons, cells_nil, Nat.add_zero]

/-- What becomes of a text that is cut to some cells: its front, or its front and a space for
half of the wide character behind it. -/
def IsCut (total : Nat) (cs cut : List Char) : Prop :=
  ∃ n, (cut = cs.take n ∧ cells (cs.take n) = total) ∨
    (cut = cs.take n ++ [' '] ∧ cells (cs.take n) + 1 = total ∧
      ∃ h : n < cs.length, cellsOf cs[n] = 2)

/-- A cut takes the cells it was made for. -/
theorem IsCut.cells_eq {total : Nat} {cs cut : List Char} (h : IsCut total cs cut) :
    cells cut = total := by
  obtain ⟨n, ⟨rfl, htotal⟩ | ⟨rfl, htotal, -⟩⟩ := h
  · exact htotal
  · have hspace : cells [' '] = 1 := by decide
    rw [cells_append, hspace, htotal]

section Halving

variable {total : Nat} {cs : List Char}

/-- The place of the cut is not before `low`: what ends behind it was found too short. -/
def IsBelow (total : Nat) (cs : List Char) (low : Nat) : Prop :=
  low = 0 ∨ cells (cs.take (low + 1)) < total

/-- The place of the cut is before `high`: what ends behind it was found too long, and not by a
wide character across the place. -/
def IsAbove (total : Nat) (cs : List Char) (high : Nat) : Prop :=
  high = cs.length ∨ ∃ h : high < cs.length, total < cells (cs.take (high + 1)) ∧
    ¬(cells (cs.take (high + 1)) = total + 1 ∧ cellsOf cs[high] = 2)

/-- Whether a wide character lies across the place of the cut. -/
theorem isAcross_iff {middle : Nat} (h : middle < cs.length) :
    (cells (cs.take (middle + 1)) = total + 1 &&
      ((cs.take (middle + 1)).getLast?.map cellsOf) = some 2) = true ↔
      cells (cs.take (middle + 1)) = total + 1 ∧ cellsOf cs[middle] = 2 := by
  have hlast : (cs.take (middle + 1)).getLast? = some cs[middle] := by
    rw [List.take_succ_eq_append_getElem h, List.getLast?_concat]
  rw [hlast, Bool.and_eq_true, decide_eq_true_iff, decide_eq_true_iff, Option.map_some,
    Option.some.injEq]

/-- Halving between a place that is too short and one that is too long finds the cut. -/
theorem isCut_cutTo (htotal : 0 < total) (hlong : total < cells cs) {low high fuel : Nat}
    (hlt : low < high) (hhigh : high ≤ cs.length) (hfuel : high - low ≤ fuel)
    (hbelow : IsBelow total cs low) (habove : IsAbove total cs high) :
    IsCut total cs (cutTo total cs low high fuel) := by
  induction fuel generalizing low high with
  | zero => omega
  | succ fuel ih =>
    obtain ⟨middle, hmiddle⟩ : ∃ middle, (low + high) / 2 = middle := ⟨_, rfl⟩
    have hinside : middle < cs.length := by omega
    have hfront := cells_take_succ hinside
    have hwide := cellsOf_le cs[middle]
    rw [cutTo, hmiddle]
    simp only [isAcross_iff hinside]
    split
    · rename_i hacross
      refine ⟨middle, .inr ⟨?_, by omega, hinside, hacross.2⟩⟩
      rw [List.take_succ_eq_append_getElem hinside, List.dropLast_concat]
    · rename_i hacross
      split
      · rename_i hexact
        exact ⟨middle + 1, .inl ⟨rfl, hexact⟩⟩
      · rename_i hexact
        split
        · rename_i hmore
          -- A first character that is too long by itself lies across the place.
          have hlow : low < middle := by
            by_contra hge
            obtain rfl : middle = low := by omega
            rcases hbelow with rfl | hless
            · rw [List.take_zero, cells_nil] at hfront
              exact hacross ⟨by omega, by omega⟩
            · omega
          exact ih hlow (Nat.le_of_lt hinside) (by omega) hbelow
            (.inr ⟨hinside, hmore, hacross⟩)
        · rename_i hless
          -- Between a place that is too short and the next one, too long, lies a wide character.
          have hlow : low < middle := by
            by_contra hge
            obtain rfl : middle = low := by omega
            obtain rfl : high = middle + 1 := by omega
            rcases habove with hend | ⟨hbehind, hmore, hnot⟩
            · rw [hend, List.take_length] at hless hexact
              omega
            · have hnext := cells_take_succ hbehind
              have hnextWide := cellsOf_le cs[middle + 1]
              exact hnot ⟨by omega, by omega⟩
          exact ih (by omega) hhigh (by omega) (.inr (by omega)) habove

/-- A text that is too long is cut. -/
theorem isCut_fit (htotal : 0 < total) (hlong : total < cells cs) :
    IsCut total cs (fit total cs) := by
  have hlength : 0 < cs.length := by
    cases cs with
    | nil => rw [cells_nil] at hlong; omega
    | cons c rest => exact Nat.succ_pos _
  rw [fit, if_neg (by omega), if_neg (by omega)]
  exact isCut_cutTo htotal hlong hlength (Nat.le_refl _) (Nat.le_refl _) (.inl rfl) (.inl rfl)

/-- A text that is fitted into some cells takes exactly these. -/
theorem cells_fit (total : Nat) (cs : List Char) : cells (fit total cs) = total := by
  by_cases hlong : total < cells cs
  · by_cases htotal : 0 < total
    · exact (isCut_fit htotal hlong).cells_eq
    · obtain rfl : total = 0 := by omega
      rfl
  · exact cells_fit_of_le (by omega)

end Halving

section Truncate

variable {width : Nat} {cs front : List Char}

/-- A line that fits is not cut. -/
theorem truncate_of_le (h : cells cs ≤ width) : truncate width .fold cs = cs := if_pos h

/-- A line that was cut fits. -/
theorem cells_truncate_le (width : Nat) (cs : List Char) :
    cells (truncate width .fold cs) ≤ width := by
  unfold truncate
  split
  · assumption
  · exact Nat.le_of_eq (cells_fit width cs)

/-- A line is cut once. -/
theorem truncate_truncate (width : Nat) (cs : List Char) :
    truncate width .fold (truncate width .fold cs) = truncate width .fold cs :=
  truncate_of_le (cells_truncate_le width cs)

/-- Characters of one cell take as many cells as there are of them. -/
theorem cells_of_single (h : ∀ c ∈ cs, cellsOf c = 1) : cells cs = cs.length := by
  induction cs with
  | nil => rfl
  | cons c rest ih =>
    obtain ⟨hc, hrest⟩ := List.forall_mem_cons.mp h
    rw [cells_cons, hc, ih hrest, List.length_cons, Nat.add_comm]

/-- What stands at the front in single cells is not cut off while there are cells for it. -/
theorem prefix_truncate (hwidth : 0 < width) (hsingle : ∀ c ∈ front, cellsOf c = 1)
    (hfits : front.length ≤ width) (hfront : front <+: cs) :
    front <+: truncate width .fold cs := by
  unfold truncate
  split
  · exact hfront
  · rename_i hlong
    -- A cut inside the front would take fewer cells, and no wide character lies across it.
    obtain ⟨n, hcut⟩ := isCut_fit hwidth (Nat.lt_of_not_le hlong)
    have hle : front.length ≤ n := by
      by_contra hlt
      have htake : cs.take n = front.take n := by
        obtain ⟨behind, rfl⟩ := hfront
        exact List.take_append_of_le_length (by omega)
      have hcells : cells (cs.take n) = n := by
        rw [htake, cells_of_single fun c hc => hsingle c (List.mem_of_mem_take hc),
          List.length_take]
        omega
      rcases hcut with ⟨-, htotal⟩ | ⟨-, htotal, hinside, hwide⟩
      · omega
      · have hmem : cs[n] = front[n] := (List.IsPrefix.getElem hfront (by omega)).symm
        rw [hmem, hsingle _ (List.getElem_mem _)] at hwide
        contradiction
    have htake : front <+: cs.take n := List.prefix_take_iff.mpr ⟨hfront, hle⟩
    rcases hcut with ⟨hcut, -⟩ | ⟨hcut, -⟩
    · rw [hcut]
      exact htake
    · rw [hcut]
      exact htake.trans (List.prefix_append _ _)

end Truncate

end InstanceLink.Console
