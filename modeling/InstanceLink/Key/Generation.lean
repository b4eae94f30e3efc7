import InstanceLink.Failure.Fault

/-!
# Requests for new keys

What is asked of a source of randomness when a key is generated: the size of the
modulus and the exponent. Sizes below the least one are refused before anything
is drawn.
-/

namespace InstanceLink

/-- A request for a new key. -/
structure KeyRequest where
  bits : Nat
  exponent : Nat
  deriving DecidableEq, Repr

namespace KeyRequest

/-- The least size of a generated modulus. -/
def leastBits : Nat := 1024

/-- The size of a generated modulus when none is given. -/
def defaultBits : Nat := 2048

/-- The exponent of every generated key. -/
def exponentUsed : Nat := 65537

/-- The request for a key of a size. -/
def ofSize (bits : Int) : Except Fault KeyRequest :=
  if bits < leastBits then .error (.rule "key_size must be at least 1024-bits.")
  else .ok ⟨bits.toNat, exponentUsed⟩

end KeyRequest

end InstanceLink
