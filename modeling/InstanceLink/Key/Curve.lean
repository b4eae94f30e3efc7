import InstanceLink.Der.Element

/-!
# Curves over prime fields

A curve holds the points whose ordinate squared equals the abscissa cubed, plus a
multiple of the abscissa, plus a constant, counted modulo a prime. A point is
written with both coordinates, or with its abscissa and the parity of its ordinate.
-/

namespace InstanceLink

/-- A power modulo a number, by repeated squaring. -/
def powerMod (modulus base exponent : Nat) : Nat :=
  if _zero : exponent = 0 then 1 % modulus
  else
    let half := powerMod modulus (base * base % modulus) (exponent / 2)
    if exponent % 2 = 1 then half * base % modulus else half
termination_by exponent
decreasing_by omega

/-- Repeated squaring gives the remainder of the power. -/
theorem powerMod_eq (modulus base exponent : Nat) :
    powerMod modulus base exponent = Nat.pow base exponent % modulus := by
  induction exponent using Nat.strongRecOn generalizing base with
  | ind exponent ih =>
    rw [powerMod]
    split
    next zero => rw [zero]; rfl
    next nonzero =>
      have smaller : exponent / 2 < exponent := by omega
      have halves : Nat.pow (base * base % modulus) (exponent / 2) % modulus =
          Nat.pow base (2 * (exponent / 2)) % modulus := by
        show (base * base % modulus) ^ (exponent / 2) % modulus =
          base ^ (2 * (exponent / 2)) % modulus
        rw [← Nat.pow_mod, Nat.pow_mul, Nat.pow_two]
      simp only [ih _ smaller, halves]
      split
      next odd =>
        have whole : exponent = 2 * (exponent / 2) + 1 := by omega
        rw [Nat.mod_mul_mod]
        conv => rhs; rw [whole]
        rfl
      next even =>
        have whole : exponent = 2 * (exponent / 2) := by omega
        conv => rhs; rw [whole]

/-- A curve over the numbers below a prime. -/
structure Curve where
  /-- The curve's object identifier. -/
  arcs : List Nat
  /-- The prime. -/
  prime : Nat
  /-- The factor of the abscissa. -/
  factor : Nat
  /-- The constant. -/
  constant : Nat
  deriving DecidableEq, Repr

namespace Curve

/-- The octets of a coordinate. -/
def size (c : Curve) : Nat := c.prime.log2 / 8 + 1

/-- The square of the ordinates over an abscissa. -/
def square (c : Curve) (x : Nat) : Nat := (x * x * x + c.factor * x + c.constant) % c.prime

/-- Whether two coordinates are those of a point. -/
def contains (c : Curve) (x y : Nat) : Bool :=
  x < c.prime && y < c.prime && y * y % c.prime = c.square x

/-- Whether a point has the abscissa and the parity. The power tells squares from
other numbers, and every square but zero has a root of either parity. -/
def hasAbscissa (c : Curve) (x parity : Nat) : Bool :=
  let square := c.square x
  x < c.prime &&
    if square = 0 then parity = 0 else powerMod c.prime square ((c.prime - 1) / 2) = 1

/-- Whether octets write a point with coordinates. The first octet tells the form: two
and three give the parity of the ordinate, four is followed by both coordinates, six
and seven give coordinates and parity. -/
def isPoint (c : Curve) : List UInt8 → Bool
  | [] => false
  | form :: coordinates =>
    let parity := form.toNat % 2
    let x := Der.natOf (coordinates.take c.size)
    let y := Der.natOf (coordinates.drop c.size)
    if form.toNat = 2 || form.toNat = 3 then
      coordinates.length = c.size && c.hasAbscissa x parity
    else if form.toNat = 4 then coordinates.length = 2 * c.size && c.contains x y
    else if form.toNat = 6 || form.toNat = 7 then
      coordinates.length = 2 * c.size && y % 2 = parity && c.contains x y
    else false

/-- The octets of the point without coordinates. -/
def infinityOctets : List UInt8 := [0]

end Curve

end InstanceLink
