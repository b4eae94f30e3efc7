/-!
# Binary64 values

Exact binary64 numbers as whole mantissas scaled by powers of two, and the
rounding of exact ratios to the nearest of them, ties to the even mantissa.
Every arithmetic step is on natural numbers, so nothing depends on hardware.
-/

namespace InstanceLink

/-- A binary64 value. -/
inductive Binary64 where
  /-- The value that is no number. -/
  | nan
  /-- An infinity with its sign. -/
  | infinite (negative : Bool)
  /-- A sign, a mantissa below 2^53 and an exponent from -1074 to 971: the value
  is the mantissa times that power of two, and the mantissa is at least 2^52
  unless the exponent is the least one. -/
  | finite (negative : Bool) (mantissa : Nat) (exponent : Int)
  deriving DecidableEq, Repr, Inhabited

namespace Binary64

/-- Zero with a sign. -/
def zero (negative : Bool) : Binary64 := .finite negative 0 (-1074)

/-- The least mantissa of 53 bits, two to the 52nd power. -/
def leastFull : Nat := 0x10000000000000

/-- The whole number nearest to a ratio, an exact half going to the even one. -/
def roundHalfEven (num den : Nat) : Nat :=
  let whole := num / den
  let twice := 2 * (num % den)
  if den < twice || (twice == den && whole % 2 == 1) then whole + 1 else whole

/-- A ratio scaled down by a power of two, as a numerator and a denominator. -/
def scaled (num den : Nat) (exponent : Int) : Nat × Nat :=
  (num * Nat.pow 2 (-exponent).toNat, den * Nat.pow 2 exponent.toNat)

/-- The exponent at which a ratio's mantissa has 53 bits, or the least one. -/
def exponentOf (num den : Nat) : Int :=
  let guess : Int := (num.log2 : Int) - den.log2 - 52
  let (n, d) := scaled num den guess
  let exact := if n / d < leastFull then guess - 1 else guess
  max exact (-1074)

/-- The binary64 value nearest to a non-negative ratio, with a sign. -/
def ofRatio (negative : Bool) (num den : Nat) : Binary64 :=
  if num = 0 || den = 0 then zero negative
  else
    let exponent := exponentOf num den
    let (n, d) := scaled num den exponent
    let mantissa := roundHalfEven n d
    let (mantissa, exponent) :=
      if mantissa = 2 * leastFull then (leastFull, exponent + 1) else (mantissa, exponent)
    if 971 < exponent then .infinite negative else .finite negative mantissa exponent

/-- The number of decimal digits of a natural number; zero has one. -/
def digitCount (n : Nat) : Nat := (Nat.toDigits 10 n).length

/-- The value nearest to `digits * 10 ^ exponent`. Exponents that leave the range
on either side are settled without computing the power. -/
def ofDecimal (negative : Bool) (digits : Nat) (exponent : Int) : Binary64 :=
  if digits = 0 then zero negative
  else
    let size := (digitCount digits : Int) + exponent
    if 310 < size then .infinite negative
    else if size < -330 then zero negative
    else ofRatio negative (digits * Nat.pow 10 exponent.toNat)
      (Nat.pow 10 (-exponent).toNat)

/-- A finite value's magnitude as a ratio. -/
def ratio (mantissa : Nat) (exponent : Int) : Nat × Nat :=
  (mantissa * Nat.pow 2 exponent.toNat, Nat.pow 2 (-exponent).toNat)

/-- Whether the value is one of the two zeros. -/
def isZero : Binary64 → Bool
  | .finite _ mantissa _ => mantissa == 0
  | _ => false

/-- The whole number a finite value equals, if any. -/
def toInt? : Binary64 → Option Int
  | .finite negative mantissa exponent =>
    let (num, den) := ratio mantissa exponent
    if num % den = 0 then
      some (if negative then -((num / den : Nat) : Int) else ((num / den : Nat) : Int))
    else none
  | _ => none

/-- Whether the value is a number, infinities left out. -/
def isFinite : Binary64 → Bool
  | .finite .. => true
  | _ => false

/-- Both zeros are the whole number zero. -/
theorem toInt?_zero (negative : Bool) : (zero negative).toInt? = some 0 := by
  cases negative <;> simp only [zero, toInt?, ratio, Nat.zero_mul, Nat.zero_mod, Nat.zero_div,
    if_true] <;> rfl

end Binary64

end InstanceLink
