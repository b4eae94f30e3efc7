/-!
# Lower case

Letters in lower case, for names that are compared without regard to case. Only
Latin letters of the first 256 characters have a case here, with the two unit signs
that are letters of that range by another code point.
-/

namespace InstanceLink.Text

/-- A letter in lower case. -/
def lowerLetter (c : Char) : Char :=
  let n := c.toNat
  if (65 ≤ n && n ≤ 90) || (0xc0 ≤ n && n ≤ 0xde && n != 0xd7) then Char.ofNat (n + 32)
  else if n = 0x212a then 'k'
  else if n = 0x212b then 'å'
  else c

/-- A text in lower case. -/
def lower (cs : List Char) : List Char := cs.map lowerLetter

/-- A text keeps its length. -/
theorem length_lower (cs : List Char) : (lower cs).length = cs.length := by simp [lower]

end InstanceLink.Text
