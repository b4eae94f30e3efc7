/-!
# RSA public keys

A modulus and an exponent that can serve as a key: the exponent is odd, at least
three and below the modulus, and neither is longer than the numbers a key is made of.
The checks are made once, when a key is built.
-/

namespace InstanceLink

/-- The most bits of a number in a key: its words hold 64 bits, and four times the bits
of all of them are counted by a signed word of 32 bits. -/
def RsaKey.sizeLimit : Nat := 64 * (0x7fffffff / (4 * 64))

/-- An RSA public key. -/
structure RsaKey where
  modulus : Nat
  exponent : Nat
  exponent_ge : 3 ≤ exponent
  exponent_lt : exponent < modulus
  exponent_odd : exponent % 2 = 1
  modulus_size : modulus.log2 < RsaKey.sizeLimit
  deriving DecidableEq

namespace RsaKey

/-- Why two numbers are no key. -/
inductive Refusal where
  /-- One of them is negative. -/
  | negative
  /-- One of them is too long. -/
  | oversized
  /-- The modulus is below three. -/
  | smallModulus
  /-- The exponent is below three or not below the modulus. -/
  | exponentRange
  /-- The exponent is even. -/
  | evenExponent
  deriving DecidableEq, Repr

/-- The wording of a refusal. -/
def Refusal.message : Refusal → String
  | .negative => "can't convert negative int to unsigned"
  | .oversized => "bignum too long"
  | .smallModulus => "n must be >= 3."
  | .exponentRange => "e must be >= 3 and < n."
  | .evenExponent => "e must be odd."

/-- The key of a modulus and an exponent. Their lengths are looked at first. -/
def ofNats (modulus exponent : Nat) : Except Refusal RsaKey :=
  if size : modulus.log2 < sizeLimit ∧ exponent.log2 < sizeLimit then
    if modulus < 3 then .error .smallModulus
    else if range : 3 ≤ exponent ∧ exponent < modulus then
      if odd : exponent % 2 = 1 then .ok ⟨modulus, exponent, range.1, range.2, odd, size.1⟩
      else .error .evenExponent
    else .error .exponentRange
  else .error .oversized

/-- The key of two numbers of either sign. -/
def ofNumbers (modulus exponent : Int) : Except Refusal RsaKey :=
  if modulus < 0 || exponent < 0 then .error .negative
  else ofNats modulus.toNat exponent.toNat

/-- The exponent of a key is not longer than its modulus. -/
theorem exponent_size (key : RsaKey) : key.exponent.log2 < sizeLimit := by
  have positive : key.exponent ≠ 0 := by
    have := key.exponent_ge
    omega
  have least : 2 ^ key.exponent.log2 ≤ key.modulus :=
    Nat.le_trans (Nat.log2_self_le positive) (Nat.le_of_lt key.exponent_lt)
  have nonzero : key.modulus ≠ 0 := Nat.ne_of_gt (Nat.zero_lt_of_lt key.exponent_lt)
  exact Nat.lt_of_le_of_lt ((Nat.le_log2 nonzero).mpr least) key.modulus_size

/-- A key is rebuilt from its own numbers. -/
theorem ofNats_self (key : RsaKey) : ofNats key.modulus key.exponent = .ok key := by
  have large : ¬ key.modulus < 3 := by
    have := key.exponent_ge
    have := key.exponent_lt
    omega
  simp only [ofNats, key.modulus_size, key.exponent_size, large, key.exponent_ge,
    key.exponent_lt, and_self, key.exponent_odd, dite_true, if_false]

/-- The number of bits of the modulus. -/
def bits (key : RsaKey) : Nat := key.modulus.log2 + 1

end RsaKey

end InstanceLink
