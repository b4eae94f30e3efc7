import InstanceLink.Der.Row

/-!
# Algorithm names

An algorithm is named by an object identifier and may carry parameters. The
parameters of known algorithms have a fixed form: many allow the empty value only,
some allow none, others take a row of settings. Settings may name further
algorithms, which obey the same rules. An algorithm that is not known may carry
any one element.
-/

namespace InstanceLink

/-- An algorithm and its parameters. -/
structure Algorithm where
  arcs : List Nat
  parameters : Option Der.Element
  deriving DecidableEq, Repr

namespace Algorithm

open Der (Element Place)

/-- RSA keys, their ciphers and signatures. -/
def rsaFamily : List Nat := [1, 2, 840, 113549, 1, 1]

/-- Password-based algorithms. -/
def passwordFamily : List Nat := [1, 2, 840, 113549, 1, 5]

/-- Keyed digests and named ciphers of the older kind: digests are numbered under
two, ciphers under three. -/
def olderFamily : List Nat := [1, 2, 840, 113549]

/-- The national algorithms: ciphers are numbered under one, digests under two,
signatures under three, key exchanges under four. -/
def nationalFamily : List Nat := [2, 16, 840, 1, 101, 3, 4]

/-- Curve keys and signatures. -/
def curveFamily : List Nat := [1, 2, 840, 10045]

/-- RSA keys. -/
def rsaArcs : List Nat := rsaFamily ++ [1]

/-- RSA keys and signatures of the probabilistic kind. -/
def rsaPssArcs : List Nat := rsaFamily ++ [10]

/-- Keys of the curves named by their parameters. -/
def curveArcs : List Nat := curveFamily ++ [2, 1]

/-- Keys of digital signatures over a prime field. -/
def dsaArcs : List Nat := [1, 2, 840, 10040, 4, 1]

/-- Keys of exchanges over a prime field with a subgroup. -/
def exchangeArcs : List Nat := [1, 2, 840, 10046, 2, 1]

/-- Keys of exchanges over a prime field. -/
def agreementArcs : List Nat := olderFamily ++ [1, 3, 1]

/-- The older digest of 160 bits. -/
def sha1Arcs : List Nat := [1, 3, 14, 3, 2, 26]

/-- The keyed form of the older digest. -/
def keyedSha1Arcs : List Nat := olderFamily ++ [2, 7]

/-- The mask generator of probabilistic signatures. -/
def maskArcs : List Nat := rsaFamily ++ [8]

/-- The field of a curve over the numbers below a prime. -/
def primeFieldArcs : List Nat := curveFamily ++ [1, 1]

/-- What is asked of an algorithm's parameters. -/
inductive Demand where
  /-- At most one element. -/
  | anything
  /-- No element. -/
  | nothing
  /-- No element or one that fits. -/
  | allowed (fits : Element → Bool)
  /-- An element that fits. -/
  | required (fits : Element → Bool)

/-- Whether parameters meet a demand. -/
def Demand.admits : Demand → Option Element → Bool
  | .anything, _ => true
  | .nothing, parameters => parameters.isNone
  | .allowed fits, parameters => parameters.all fits
  | .required fits, parameters => parameters.any fits

/-- Identifier and parameters of an element, the parameters unchecked. -/
def split? (e : Element) : Option Algorithm := do
  if e.tag != Der.Tag.sequence then none
  match ← e.children? with
  | [name] => return ⟨← name.oid?, none⟩
  | [name, parameters] => return ⟨← name.oid?, some parameters⟩
  | _ => none

/-- Whether an element is the given algorithm with the empty value. -/
def isPlain (arcs : List Nat) (e : Element) : Bool :=
  (split? e).any fun a => a.arcs = arcs && a.parameters.any Element.isNull

/-- Whether an element names a digest for masks; `nested` checks the digest. The
digest that absence stands for is not written. -/
def isMask (nested : Element → Bool) (e : Element) : Bool :=
  e.isRow [.name, .sequence nested] &&
    match e.children? with
    | some [name, digest] => !(name.oid? = some maskArcs && isPlain sha1Arcs digest)
    | _ => false

/-- The salt length that absence stands for. -/
def usualSalt : Nat := 20

/-- The settings of probabilistic signatures. Settings that absence stands for are not
written. -/
def signatureSettings (nested : Element → Bool) : List Place :=
  [.explicit 0 fun e => nested e && !isPlain sha1Arcs e,
    .explicit 1 (isMask nested),
    .explicit 2 fun e => (e.word? 16).any (· != usualSalt),
    .explicit 3 fun e => (e.word? 8).isSome]

/-- Whether an element is the field of a curve. -/
def isField (e : Element) : Bool :=
  e.tag = Der.Tag.sequence &&
    match e.children? with
    | some [kind, modulus] =>
      match kind.oid? with
      | some arcs => arcs != primeFieldArcs || modulus.natural?.isSome
      | none => false
    | _ => false

/-- The parts of a curve that is written out: version, field, coefficients, base
point, order and cofactor. -/
def curveParts : List Place :=
  [.word 8, .sequence isField, .sequence (Element.isRow [.octets, .octets, .optional .bits]),
    .octets, .natural, .optional .integer]

/-- Whether an element names a curve, leaves it open or writes it out. -/
def isCurve (e : Element) : Bool := e.oid?.isSome || e.isNull || e.isRow curveParts

/-- Numbered algorithms of a family. -/
def members (family : List Nat) (numbers : List Nat) : List (List Nat) :=
  numbers.map fun n => family ++ [n]

/-- The known algorithms and the demands on their parameters; `nested` checks an
algorithm among the parameters. -/
def demands (nested : Element → Bool) : List (List (List Nat) × Demand) :=
  [(sha1Arcs :: members (nationalFamily ++ [2]) [1, 2, 3, 4, 7, 8, 9, 10],
      .allowed Element.isNull),
    ([1, 3, 14, 3, 2, 29] :: members rsaFamily [1, 5, 11, 12, 13, 14] ++
      members (nationalFamily ++ [3]) [13, 14, 15, 16], .allowed Element.isNull),
    (members (olderFamily ++ [2]) [7, 8, 9, 10, 11], .allowed Element.isNull),
    (members [1, 3, 101] [110, 111, 112, 113], .nothing),
    (members (curveFamily ++ [4, 3]) [1, 2, 3, 4], .nothing),
    (members (nationalFamily ++ [3]) [1, 2, 3, 4, 9, 10, 11, 12, 17, 18, 19], .nothing),
    (members (nationalFamily ++ [4]) [2, 3], .nothing),
    ([rsaPssArcs], .allowed (Element.isRow (signatureSettings nested))),
    ([curveArcs], .required isCurve),
    ([dsaArcs], .required (Element.isRow [.natural, .natural, .natural])),
    ([exchangeArcs], .required (Element.isRow
      [.natural, .natural, .natural, .optional .integer, .optional (.sequence fun _ => true)])),
    ([agreementArcs], .required (Element.isRow [.natural, .natural, .optional (.word 32)])),
    ([passwordFamily ++ [13]], .required (Element.isRow [.sequence nested, .sequence nested])),
    ([passwordFamily ++ [12]], .required (Element.isRow
      [.octets, .word 64, .optional (.word 64),
        .optional (.sequence fun e => nested e && !isPlain keyedSha1Arcs e)])),
    ([passwordFamily ++ [3]], .required (Element.isRow [.octetsOfSize 8, .word 64])),
    ([[1, 3, 6, 1, 4, 1, 11591, 4, 11]], .required (Element.isRow
      [.octets, .word 64, .word 64, .word 64, .optional (.word 32)])),
    (members (olderFamily ++ [1, 12, 1]) [1, 3, 6],
      .required (Element.isRow [.octets, .word 64])),
    (members (nationalFamily ++ [1]) [2, 22, 42],
      .required fun e => e.tag = Der.Tag.octetString && e.content.length = 16),
    ([olderFamily ++ [3, 7]],
      .required fun e => e.tag = Der.Tag.octetString && e.content.length = 8),
    ([olderFamily ++ [3, 2]],
      .required (Element.isRow [.optional (.word 32), .octetsOfSize 8]))]

/-- The demand on the parameters of an algorithm. -/
def demand (nested : Element → Bool) (arcs : List Nat) : Demand :=
  match (demands nested).find? fun entry => entry.1.contains arcs with
  | some (_, demand) => demand
  | none => .anything

/-- Whether an element is an algorithm with parameters that fit it, algorithms inside
algorithms to the given depth. -/
def isWellFormed (depth : Nat) (e : Element) : Bool :=
  match depth with
  | 0 => false
  | depth + 1 =>
    (split? e).any fun a => (demand (isWellFormed depth) a.arcs).admits a.parameters

/-- The algorithm of an element. Every element inside another is shorter than it, so
its length bounds the depth. -/
def ofElement? (e : Element) : Option Algorithm :=
  if isWellFormed e.octets.length e then split? e else none

end Algorithm

end InstanceLink
