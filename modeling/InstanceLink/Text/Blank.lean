/-!
# Blank characters

The characters that may surround a text without belonging to it, and the two
trimming rules built on them. Trimming removes blanks at the ends only.
-/

namespace InstanceLink.Text

/-- The 29 blank characters: tabulation and line marks, the four separators
below the space, the space, and every spacing character of Unicode. -/
def isBlank (c : Char) : Bool :=
  let n := c.toNat
  (9 ≤ n && n ≤ 13) || (28 ≤ n && n ≤ 32) || n == 0x85 || n == 0xa0 || n == 0x1680 ||
    (0x2000 ≤ n && n ≤ 0x200a) || n == 0x2028 || n == 0x2029 || n == 0x202f ||
    n == 0x205f || n == 0x3000

/-- Blanks of the narrower class, which leaves out the four separators below
the space. Number texts are trimmed by this class. -/
def isPlainBlank (c : Char) : Bool :=
  isBlank c && !(28 ≤ c.toNat && c.toNat ≤ 31)

/-- Remove a leading and a trailing run of characters of one class. -/
def trimBy (drop : Char → Bool) (cs : List Char) : List Char :=
  ((cs.dropWhile drop).reverse.dropWhile drop).reverse

/-- A text without the blanks around it. -/
def strip (s : String) : String := String.ofList (trimBy isBlank s.toList)

/-- A text with every blank removed, wherever it stands. -/
def withoutBlanks (s : String) : String :=
  String.ofList (s.toList.filter fun c => !isBlank c)

/-- Every character core calls white space is blank. -/
theorem isBlank_of_isWhitespace {c : Char} (h : c.isWhitespace = true) : isBlank c = true := by
  simp only [Char.isWhitespace, Bool.or_eq_true, decide_eq_true_eq] at h
  rcases h with ((h | h) | h) | h <;> subst h <;> decide

/-- Trimming an empty text leaves it empty. -/
theorem trimBy_nil (drop : Char → Bool) : trimBy drop [] = [] := rfl

/-- A text is unchanged by trimming when both its ends are kept characters. -/
theorem trimBy_eq_self {drop : Char → Bool} {cs : List Char}
    (first : ∀ c, cs.head? = some c → drop c = false)
    (last : ∀ c, cs.getLast? = some c → drop c = false) : trimBy drop cs = cs := by
  unfold trimBy
  have keep : ∀ {ds : List Char}, (∀ c, ds.head? = some c → drop c = false) →
      ds.dropWhile drop = ds := by
    intro ds h
    cases ds with
    | nil => rfl
    | cons d ds => simp [List.dropWhile, h d rfl]
  rw [keep first, keep, List.reverse_reverse]
  intro c h
  exact last c (by simpa using h)

end InstanceLink.Text
