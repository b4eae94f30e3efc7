import InstanceLink.Der.Algorithm

/-!
# Signature algorithms

What a secure transport knows of a signature algorithm: the families of keys it is
made with, and whether its digest is worth the demanded 112 bits. An algorithm that
is not known is worth nothing.
-/

namespace InstanceLink

/-- The families of keys a transport tells apart. -/
inductive KeyFamily where
  | rsa
  /-- RSA keys that make probabilistic signatures only. -/
  | rsaPss
  | curve
  /-- Keys of the national curve with its own signatures. -/
  | sm2
  | dsa
  | ed25519
  | ed448
  /-- Keys that make no signatures. -/
  | exchange
  deriving DecidableEq, Repr

/-- What is known of a signature algorithm. -/
structure SignatureStrength where
  /-- The families of the keys that make such signatures. -/
  families : List KeyFamily
  /-- Whether the digest is worth the demanded bits. -/
  isStrong : Bool
  deriving DecidableEq, Repr

namespace SignatureStrength

open Algorithm (members rsaFamily nationalFamily curveFamily olderFamily)

/-- The arcs of older algorithms of several kinds. -/
def mixedFamily : List Nat := [1, 3, 14, 3, 2]

/-- Signatures of RSA keys with strong digests. -/
def strongRsa : List (List Nat) :=
  members rsaFamily [11, 12, 13, 14] ++ members (nationalFamily ++ [3]) [13, 14, 15, 16]

/-- Signatures of RSA keys with weak digests. -/
def weakRsa : List (List Nat) :=
  members rsaFamily [2, 3, 4, 5] ++ members mixedFamily [3, 15, 29] ++ [[1, 3, 36, 3, 3, 1, 2]]

/-- The known algorithms with fixed digests. -/
def table : List (List (List Nat) × SignatureStrength) :=
  [(strongRsa, ⟨[.rsa], true⟩),
    (weakRsa, ⟨[.rsa], false⟩),
    (members (curveFamily ++ [4, 3]) [1, 2, 3, 4], ⟨[.curve], true⟩),
    (members (curveFamily ++ [4]) [1, 2, 3], ⟨[.curve], false⟩),
    (members (nationalFamily ++ [3]) [1, 2], ⟨[.dsa], true⟩),
    ([1, 2, 840, 10040, 4, 3] :: members mixedFamily [13, 27], ⟨[.dsa], false⟩),
    ([[1, 3, 101, 112]], ⟨[.ed25519], true⟩),
    ([[1, 3, 101, 113]], ⟨[.ed448], true⟩),
    ([[1, 2, 156, 10197, 1, 501]], ⟨[.sm2], true⟩),
    (members [1, 3, 132, 1, 11] [0, 1, 2, 3] ++ members [1, 3, 132, 1, 14] [0, 1, 2, 3],
      ⟨[], true⟩)]

/-- Digests worth the demanded bits. -/
def strongDigests : List (List Nat) :=
  members (nationalFamily ++ [2]) [1, 2, 3, 4, 5, 6, 7, 8, 9, 10, 12] ++
    members rsaFamily [11, 12, 13, 14, 15, 16] ++
    members (nationalFamily ++ [3]) [13, 14, 15, 16] ++
    [[1, 3, 6, 1, 4, 1, 1722, 12, 2, 1, 16], [1, 3, 6, 1, 4, 1, 1722, 12, 2, 2, 8],
      [1, 0, 10118, 3, 0, 55], [1, 2, 156, 10197, 1, 401], [1, 2, 156, 10197, 1, 504]]

/-- Digests worth less. -/
def weakDigests : List (List Nat) :=
  members (olderFamily ++ [2]) [4, 5] ++ members rsaFamily [3, 4, 5] ++
    [Algorithm.sha1Arcs, nationalFamily ++ [2, 11], [1, 3, 36, 3, 2, 1], [1, 3, 36, 3, 3, 1, 2]]

/-- The content of the setting with a number. -/
def setting? (settings : List Der.Element) (number : Nat) : Option Der.Element :=
  match (settings.find? fun e => e.tag = Der.Tag.explicit number).bind Der.Element.children? with
  | some [inner] => some inner
  | _ => none

/-- Whether a setting names a mask digest that is known. -/
def isKnownMask (e : Der.Element) : Bool :=
  match Algorithm.split? e with
  | some ⟨arcs, some digest⟩ =>
    arcs = Algorithm.maskArcs &&
      (Algorithm.split? digest).any fun a => (strongDigests ++ weakDigests).contains a.arcs
  | _ => false

/-- Whether the settings of a probabilistic signature name a digest worth the demanded
bits; the digest that absence stands for is worth less. -/
def hasStrongSettings (a : Algorithm) : Bool :=
  match a.parameters.bind Der.Element.children? with
  | some settings =>
    ((setting? settings 0).bind Algorithm.split?).any (fun d => strongDigests.contains d.arcs) &&
      (setting? settings 1).all isKnownMask &&
      (setting? settings 3).all fun e => e.natural? = some 1
  | none => false

/-- What is known of an algorithm, when it is known at all. -/
def of? (a : Algorithm) : Option SignatureStrength :=
  if a.arcs = Algorithm.rsaPssArcs then some ⟨[.rsa, .rsaPss], hasStrongSettings a⟩
  else (table.find? fun entry => entry.1.contains a.arcs).map Prod.snd

/-- Whether the signatures of an algorithm are worth the demanded bits. -/
def isStrongAlgorithm (a : Algorithm) : Bool := (of? a).any isStrong

/-- Whether the keys of a family make the signatures of an algorithm. -/
def isMadeBy (a : Algorithm) (family : KeyFamily) : Bool :=
  (of? a).any fun known => known.families.contains family

end SignatureStrength

end InstanceLink
