import InstanceLink.Number.Binary64

/-!
# Shortest decimal texts

The fewest decimal digits that read back to a binary64 value, and the layout of
those digits. For one digit, two digits and so on the two neighbours of the value
on that decimal grid are tried; the first grid with a hit wins, and of two hits
the nearer.
-/

namespace InstanceLink.Binary64

/-- The position of the decimal point: the least power of ten above a positive
ratio. -/
def pointOf (num den : Nat) : Int :=
  if den ≤ num then digitCount (num / den)
  else
    let size := digitCount (den / num)
    if den ≤ num * Nat.pow 10 (size - 1) then 2 - (size : Int) else 1 - (size : Int)

/-- The digits of a positive ratio cut at a decimal position, and whether the next
grid point above is strictly nearer; a tie prefers the even neighbour. -/
def onGrid (num den : Nat) (position : Int) : Nat × Bool :=
  let n := num * Nat.pow 10 (-position).toNat
  let d := den * Nat.pow 10 position.toNat
  let below := n / d
  (below, roundHalfEven n d != below)

/-- The first grid of at most `fuel` further digits on which a neighbour of the
value reads back, starting with `count` digits. -/
def shortestFrom (value : Binary64) (negative : Bool) (num den : Nat) (point : Int) :
    Nat → Nat → Nat × Int
  | 0, count => ((onGrid num den (point - count)).1, point - count)
  | fuel + 1, count =>
    let position := point - count
    let (below, up) := onGrid num den position
    let hits : Nat → Bool := fun digits => ofDecimal negative digits position == value
    let near := if up then below + 1 else below
    let far := if up then below else below + 1
    if hits near then (near, position)
    else if hits far then (far, position)
    else shortestFrom value negative num den point fuel (count + 1)

/-- Digits without trailing zeros, the position raised to match. -/
def dropZeros (digits : Nat) (position : Int) : Nat → Nat × Int
  | 0 => (digits, position)
  | fuel + 1 =>
    if digits % 10 = 0 && digits != 0 then dropZeros (digits / 10) (position + 1) fuel
    else (digits, position)

/-- The shortest digits of a finite value and the power of ten they count. -/
def shortestDigits (negative : Bool) (mantissa : Nat) (exponent : Int) : Nat × Int :=
  if mantissa = 0 then (0, 0)
  else
    let (num, den) := ratio mantissa exponent
    let value := finite negative mantissa exponent
    let (digits, position) := shortestFrom value negative num den (pointOf num den) 17 1
    dropZeros digits position 20

/-- Where the positional form ends and how an exponent is written. -/
structure DecimalLayout where
  /-- The least position of the point that is still written with leading zeros. -/
  leastPoint : Int
  /-- The greatest position of the point that is still written positionally. -/
  greatestPoint : Int
  /-- The least number of digits of an exponent. -/
  exponentDigits : Nat

/-- Numbers in messages: positional from 0.0001 up to sixteen whole digits, with
at least one decimal, and exponents of two digits or more. -/
def messageLayout : DecimalLayout := ⟨-3, 16, 2⟩

/-- A row of zeros. -/
def zeros (n : Nat) : List Char := List.replicate n '0'

/-- Digits laid out with the point after `point` of them. -/
def layOut (layout : DecimalLayout) (digits : List Char) (point : Int) : List Char :=
  if layout.leastPoint ≤ point && point ≤ layout.greatestPoint then
    if point ≤ 0 then '0' :: '.' :: zeros (-point).toNat ++ digits
    else if digits.length ≤ point.toNat then
      digits ++ zeros (point.toNat - digits.length) ++ ['.', '0']
    else digits.take point.toNat ++ '.' :: digits.drop point.toNat
  else
    let power := point - 1
    let sign := if power < 0 then '-' else '+'
    let magnitude := Nat.toDigits 10 power.natAbs
    let padded := zeros (layout.exponentDigits - magnitude.length) ++ magnitude
    match digits with
    | [] => []
    | [d] => d :: 'e' :: sign :: padded
    | d :: ds => d :: '.' :: ds ++ 'e' :: sign :: padded

/-- The text of a value, as messages write it. -/
def text : Binary64 → String
  | .nan => "nan"
  | .infinite negative => if negative then "-inf" else "inf"
  | .finite negative mantissa exponent =>
    let (digits, position) := shortestDigits negative mantissa exponent
    let written := Nat.toDigits 10 digits
    let point := if mantissa = 0 then 1 else (written.length : Int) + position
    let body := layOut messageLayout written point
    String.ofList (if negative then '-' :: body else body)

end InstanceLink.Binary64
