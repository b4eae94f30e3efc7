import InstanceLink.Key.NamedCurve

/-!
# Kinds of public keys

The algorithm of a public key decides how the bits of the key are laid out: numbers,
plain octets of a fixed size, or a point on a curve. Keys other than RSA keys are
only checked, never taken apart.
-/

namespace InstanceLink

/-- The kinds of public keys. -/
inductive KeyKind where
  /-- The pair of an RSA key. -/
  | rsa
  /-- Octets of a fixed number. -/
  | octets (size : Nat)
  /-- Numbers of twelve bits below a bound, so many times 256, and 32 octets more. -/
  | lattice (rank : Nat)
  /-- A point on the curve named by the parameters. -/
  | point
  /-- A number, beside a group that is not checked. -/
  | number
  /-- A number, beside a group with a prime and a generator. -/
  | power
  deriving DecidableEq, Repr

namespace KeyKind

/-- The kinds by their algorithms. -/
def table : List (List Nat × KeyKind) :=
  [(Algorithm.rsaArcs, .rsa), (Algorithm.rsaPssArcs, .rsa),
    ([1, 3, 101, 110], .octets 32), ([1, 3, 101, 111], .octets 56),
    ([1, 3, 101, 112], .octets 32), ([1, 3, 101, 113], .octets 57),
    (Algorithm.nationalFamily ++ [3, 17], .octets 1312),
    (Algorithm.nationalFamily ++ [3, 18], .octets 1952),
    (Algorithm.nationalFamily ++ [3, 19], .octets 2592),
    (Algorithm.nationalFamily ++ [4, 2], .lattice 3),
    (Algorithm.nationalFamily ++ [4, 3], .lattice 4),
    (Algorithm.curveArcs, .point), (Algorithm.dsaArcs, .number),
    (Algorithm.exchangeArcs, .power), (Algorithm.agreementArcs, .power)]

/-- The kind of an algorithm's keys, when it is known. -/
def ofArcs? (arcs : List Nat) : Option KeyKind := table.lookup arcs

/-- Why a key of a kind is refused. -/
inductive Refusal where
  /-- The key is no number. -/
  | malformed
  /-- The key does not have the layout of its kind. -/
  | layout
  /-- The curve is written out and not a known one. -/
  | writtenCurve
  /-- The curve is not known. -/
  | unknownCurve (arcs : List Nat)
  /-- The point has no coordinates. -/
  | infinity
  /-- The group is too small or its generator is trivial. -/
  | group
  deriving DecidableEq, Repr

/-- The bound of the numbers in a lattice key. -/
def latticeBound : Nat := 3329

/-- Whether numbers of twelve bits, two of them in three octets with the low bits first,
stay below the bound. -/
def isReduced : List UInt8 → Bool
  | a :: b :: c :: rest =>
    a.toNat + 256 * (b.toNat % 16) < latticeBound && b.toNat / 16 + 16 * c.toNat < latticeBound &&
      isReduced rest
  | _ => true

/-- The octets of the numbers in a lattice key of a rank. -/
def latticeSize (rank : Nat) : Nat := 384 * rank

/-- Whether octets are a lattice key of a rank. -/
def isLattice (rank : Nat) (key : List UInt8) : Bool :=
  key.length = latticeSize rank + 32 && isReduced (key.take (latticeSize rank))

/-- The number of a key's octets. -/
def number? (key : List UInt8) : Option Nat := (Der.single? key).bind Der.Element.natural?

/-- The least and the largest size of a group's prime, in bits. -/
def groupBits : Nat × Nat := (512, 10000)

/-- Whether the first two numbers of some parameters are a prime of a fair size and a
generator; of the prime only its oddness is checked. -/
def isGroup (parameters : Der.Element) : Bool :=
  match parameters.children?.map fun elements => elements.filterMap Der.Element.natural? with
  | some (prime :: generator :: _) =>
    let bits := prime.log2 + 1
    groupBits.1 ≤ bits && bits ≤ groupBits.2 && prime % 2 = 1 && 2 ≤ generator &&
      generator ≤ prime - 2
  | _ => false

/-- The curve of some parameters. -/
def curve (parameters : Der.Element) : Except Refusal Curve :=
  match parameters.oid? with
  | some arcs =>
    match NamedCurve.find? arcs with
    | some c => .ok c
    | none => .error (.unknownCurve arcs)
  | none =>
    match NamedCurve.written? parameters with
    | some c => .ok c
    | none => .error .writtenCurve

/-- Whether octets are a point of the curve of some parameters, other than the one
without coordinates. -/
def checkPoint (parameters : Der.Element) (key : List UInt8) : Except Refusal Unit := do
  let c ← curve parameters
  if key = Curve.infinityOctets then throw .infinity
  else if c.isPoint key then return ()
  else throw .layout

/-- Whether octets are a number, beside a group. -/
def checkPower (parameters : Der.Element) (key : List UInt8) : Except Refusal Unit :=
  if (number? key).isNone then .error .malformed
  else if isGroup parameters then .ok ()
  else .error .group

/-- Whether octets have the layout of a kind's keys. Kinds that need parameters have
them once the algorithm was read. -/
def check (kind : KeyKind) (parameters : Option Der.Element) (key : List UInt8) :
    Except Refusal Unit :=
  match kind, parameters with
  | .rsa, _ => .ok ()
  | .octets size, _ => if key.length = size then .ok () else .error .layout
  | .lattice rank, _ => if isLattice rank key then .ok () else .error .layout
  | .number, _ => if (number? key).isSome then .ok () else .error .malformed
  | .point, some parameters => checkPoint parameters key
  | .power, some parameters => checkPower parameters key
  | .point, none => .error .malformed
  | .power, none => .error .malformed

end KeyKind

end InstanceLink
