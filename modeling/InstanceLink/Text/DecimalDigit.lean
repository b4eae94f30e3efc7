/-!
# Digits of all scripts

Every script's ten decimal digits stand in one ascending run, so their table holds the
zeros only. Other digits have shapes of their own, and numbers are not written with them.
-/

namespace InstanceLink.Text

/-- The code points of the digit zero in each script. -/
def decimalZeros : List Nat := [
  48, 1632, 1776, 1984, 2406, 2534, 2662, 2790, 2918, 3046, 3174, 3302, 3430, 3558, 3664, 3792,
  3872, 4160, 4240, 6112, 6160, 6470, 6608, 6784, 6800, 6992, 7088, 7232, 7248, 42528, 43216,
  43264, 43472, 43504, 43600, 44016, 65296, 66720, 68912, 69734, 69872, 69942, 70096, 70384,
  70736, 70864, 71248, 71360, 71472, 71904, 72016, 72784, 73040, 73120, 92768, 92864, 93008,
  120782, 120792, 120802, 120812, 120822, 123200, 123632, 125264, 130032]

/-- The value of a decimal digit of any script. -/
def decimalValue? (c : Char) : Option Nat :=
  (decimalZeros.find? fun z => z ≤ c.toNat && c.toNat ≤ z + 9).map (c.toNat - ·)

/-- The runs of digits in shapes of their own, each by its first and last code point: raised
and lowered digits, digits in circles or brackets, and those of scripts without places. -/
def shapedDigits : List (Nat × Nat) := [
  (178, 179), (185, 185), (4969, 4977), (6618, 6618), (8304, 8304), (8308, 8313), (8320, 8329),
  (9312, 9320), (9332, 9340), (9352, 9360), (9450, 9450), (9461, 9469), (9471, 9471),
  (10102, 10110), (10112, 10120), (10122, 10130), (68160, 68163), (69216, 69224), (69714, 69722),
  (127232, 127242)]

/-- Whether a character is a digit of any shape. -/
def isDigit (c : Char) : Bool :=
  (decimalValue? c).isSome ||
    shapedDigits.any fun (first, last) => first ≤ c.toNat && c.toNat ≤ last

/-- A digit's value is below ten. -/
theorem decimalValue?_lt {c : Char} {v : Nat} (h : decimalValue? c = some v) : v < 10 := by
  unfold decimalValue? at h
  obtain ⟨z, hz, rfl⟩ := Option.map_eq_some_iff.mp h
  have hb := List.find?_some hz
  simp only [Bool.and_eq_true, decide_eq_true_eq] at hb
  omega

end InstanceLink.Text
