/-!
# Hexadecimal digits

Lower-case hexadecimal writing of natural numbers, of fixed and of natural
width, and the reading of such texts in either case.
-/

namespace InstanceLink.Text

/-- The lower-case digit of a value below sixteen. -/
def hexDigit (n : Nat) : Char :=
  if n < 10 then Char.ofNat (48 + n) else Char.ofNat (87 + n)

/-- The value of a hexadecimal digit of either case. -/
def hexValue? (c : Char) : Option Nat :=
  let n := c.toNat
  if 48 ≤ n && n ≤ 57 then some (n - 48)
  else if 97 ≤ n && n ≤ 102 then some (n - 87)
  else if 65 ≤ n && n ≤ 70 then some (n - 55)
  else none

/-- The last `width` hexadecimal digits of a number, most significant first. -/
def hexPadded : Nat → Nat → List Char
  | 0, _ => []
  | width + 1, n => hexPadded width (n / 16) ++ [hexDigit (n % 16)]

/-- A fixed-width writing has exactly that many digits. -/
theorem hexPadded_length (width n : Nat) : (hexPadded width n).length = width := by
  induction width generalizing n with
  | zero => rfl
  | succ width ih => simp [hexPadded, ih]

/-- A number in hexadecimal without leading zeros; zero is one digit. -/
def hex (n : Nat) : String := String.ofList (Nat.toDigits 16 n)

/-- The number written by hexadecimal digits, or nothing on any other character
or an empty text. -/
def readHex? (cs : List Char) : Option Nat :=
  if cs.isEmpty then none
  else cs.foldl (fun acc c => acc.bind fun n => (hexValue? c).map (16 * n + ·)) (some 0)

/-- A byte as two lower-case digits. -/
def hexByte (b : UInt8) : List Char := hexPadded 2 b.toNat

/-- Pairs of hexadecimal digits as bytes. -/
def readHexBytes? : List Char → Option (List UInt8)
  | [] => some []
  | [_] => none
  | a :: b :: rest => do
    let high ← hexValue? a
    let low ← hexValue? b
    let tail ← readHexBytes? rest
    return UInt8.ofNat (16 * high + low) :: tail

end InstanceLink.Text
