import InstanceLink.Key.NamedCurve

/-!
# Curves of a secure transport

The curves a secure transport knows beside those of keys: more curves over prime
fields, and curves over fields of bit rows or with few points, of which only the size
of a coordinate matters here.
-/

namespace InstanceLink.TransportCurve

open NamedCurve (ofWords)

/-- The curve over a prime of 224 bits, without a factor. -/
def koblitz224 : Curve where
  arcs := [1, 3, 132, 0, 32]
  prime :=
    ofWords [0xffffffff, 0xffffffffffffffff, 0xffffffffffffffff, 0xfffffffeffffe56d]
  factor := 0
  constant := 5

/-- The curve first over a prime of 239 bits. -/
def prime239First : Curve where
  arcs := [1, 2, 840, 10045, 3, 1, 4]
  prime :=
    ofWords [0x7fffffffffff, 0xffffffffffff7fff, 0xffffffff80000000, 0x00007fffffffffff]
  factor :=
    ofWords [0x7fffffffffff, 0xffffffffffff7fff, 0xffffffff80000000, 0x00007ffffffffffc]
  constant :=
    ofWords [0x6b016c3bdcf1, 0x8941d0d654921475, 0xca71a9db2fb27d1d, 0x37796185c2942c0a]

/-- The curve second over a prime of 239 bits. -/
def prime239Second : Curve where
  arcs := [1, 2, 840, 10045, 3, 1, 5]
  prime :=
    ofWords [0x7fffffffffff, 0xffffffffffff7fff, 0xffffffff80000000, 0x00007fffffffffff]
  factor :=
    ofWords [0x7fffffffffff, 0xffffffffffff7fff, 0xffffffff80000000, 0x00007ffffffffffc]
  constant :=
    ofWords [0x617fab683257, 0x6cbbfed50d99f024, 0x9c3fee58b94ba003, 0x8c7ae84c8c832f2c]

/-- The curve third over a prime of 239 bits. -/
def prime239Third : Curve where
  arcs := [1, 2, 840, 10045, 3, 1, 6]
  prime :=
    ofWords [0x7fffffffffff, 0xffffffffffff7fff, 0xffffffff80000000, 0x00007fffffffffff]
  factor :=
    ofWords [0x7fffffffffff, 0xffffffffffff7fff, 0xffffffff80000000, 0x00007ffffffffffc]
  constant :=
    ofWords [0x255705fa2a30, 0x6654b1f4cb03d6a7, 0x50a30c250102d498, 0x8717d9ba15ab6d3e]

/-- The curve over a random prime of 224 bits. -/
def random224 : Curve where
  arcs := [1, 3, 36, 3, 3, 2, 8, 1, 1, 5]
  prime :=
    ofWords [0xd7c134aa, 0x264366862a183025, 0x75d1d787b09f0757, 0x97da89f57ec8c0ff]
  factor :=
    ofWords [0x68a5e62c, 0xa9ce6c1c299803a6, 0xc1530b514e182ad8, 0xb0042a59cad29f43]
  constant :=
    ofWords [0x2580f63c, 0xcfe44138870713b1, 0xa92369e33e2135d2, 0x66dbb372386c400b]

/-- The curve over a random prime of 224 bits, in its twisted form. -/
def twisted224 : Curve where
  arcs := [1, 3, 36, 3, 3, 2, 8, 1, 1, 6]
  prime :=
    ofWords [0xd7c134aa, 0x264366862a183025, 0x75d1d787b09f0757, 0x97da89f57ec8c0ff]
  factor :=
    ofWords [0xd7c134aa, 0x264366862a183025, 0x75d1d787b09f0757, 0x97da89f57ec8c0fc]
  constant :=
    ofWords [0x4b337d93, 0x4104cd7bef271bf6, 0x0ced1ed20da14c08, 0xb3bb64f18a60888d]

/-- The curve over a random prime of 256 bits, in its twisted form. -/
def twisted256 : Curve where
  arcs := [1, 3, 36, 3, 3, 2, 8, 1, 1, 8]
  prime :=
    ofWords [0xa9fb57dba1eea9bc, 0x3e660a909d838d72, 0x6e3bf623d5262028, 0x2013481d1f6e5377]
  factor :=
    ofWords [0xa9fb57dba1eea9bc, 0x3e660a909d838d72, 0x6e3bf623d5262028, 0x2013481d1f6e5374]
  constant :=
    ofWords [0x662c61c430d84ea4, 0xfe66a7733d0b76b7, 0xbf93ebc4af2f4925, 0x6ae58101fee92b04]

/-- The curve over a random prime of 320 bits. -/
def random320 : Curve where
  arcs := [1, 3, 36, 3, 3, 2, 8, 1, 1, 9]
  prime :=
    ofWords [0xd35e472036bc4fb7, 0xe13c785ed201e065, 0xf98fcfa6f6f40def, 0x4f92b9ec7893ec28,
      0xfcd412b1f1b32e27]
  factor :=
    ofWords [0x3ee30b568fbab0f8, 0x83ccebd46d3f3bb8, 0xa2a73513f5eb79da, 0x66190eb085ffa9f4,
      0x92f375a97d860eb4]
  constant :=
    ofWords [0x520883949dfdbc42, 0xd3ad198640688a6f, 0xe13f41349554b49a, 0xcc31dccd88453981,
      0x6f5eb4ac8fb1f1a6]

/-- The curve over a random prime of 320 bits, in its twisted form. -/
def twisted320 : Curve where
  arcs := [1, 3, 36, 3, 3, 2, 8, 1, 1, 10]
  prime :=
    ofWords [0xd35e472036bc4fb7, 0xe13c785ed201e065, 0xf98fcfa6f6f40def, 0x4f92b9ec7893ec28,
      0xfcd412b1f1b32e27]
  factor :=
    ofWords [0xd35e472036bc4fb7, 0xe13c785ed201e065, 0xf98fcfa6f6f40def, 0x4f92b9ec7893ec28,
      0xfcd412b1f1b32e24]
  constant :=
    ofWords [0xa7f561e038eb1ed5, 0x60b3d147db782013, 0x064c19f27ed27c67, 0x80aaf77fb8a547ce,
      0xb5b4fef422340353]

/-- The curve over a random prime of 384 bits, in its twisted form. -/
def twisted384 : Curve where
  arcs := [1, 3, 36, 3, 3, 2, 8, 1, 1, 12]
  prime :=
    ofWords [0x8cb91e82a3386d28, 0x0f5d6f7e50e641df, 0x152f7109ed5456b4, 0x12b1da197fb71123,
      0xacd3a729901d1a71, 0x874700133107ec53]
  factor :=
    ofWords [0x8cb91e82a3386d28, 0x0f5d6f7e50e641df, 0x152f7109ed5456b4, 0x12b1da197fb71123,
      0xacd3a729901d1a71, 0x874700133107ec50]
  constant :=
    ofWords [0x7f519eada7bda81b, 0xd826dba647910f8c, 0x4b9346ed8ccdc64e, 0x4b1abd11756dce1d,
      0x2074aa263b88805c, 0xed70355a33b471ee]

/-- The curve over a random prime of 512 bits, in its twisted form. -/
def twisted512 : Curve where
  arcs := [1, 3, 36, 3, 3, 2, 8, 1, 1, 14]
  prime :=
    ofWords [0xaadd9db8dbe9c48b, 0x3fd4e6ae33c9fc07, 0xcb308db3b3c9d20e, 0xd6639cca70330871,
      0x7d4d9b009bc66842, 0xaecda12ae6a380e6, 0x2881ff2f2d82c685, 0x28aa6056583a48f3]
  factor :=
    ofWords [0xaadd9db8dbe9c48b, 0x3fd4e6ae33c9fc07, 0xcb308db3b3c9d20e, 0xd6639cca70330871,
      0x7d4d9b009bc66842, 0xaecda12ae6a380e6, 0x2881ff2f2d82c685, 0x28aa6056583a48f0]
  constant :=
    ofWords [0x7cbbbcf9441cfab7, 0x6e1890e46884eae3, 0x21f70c0bcb498152, 0x7897504bec3e36a6,
      0x2bcdfa2304976540, 0xf6450085f2dae145, 0xc22553b465763689, 0x180ea2571867423e]

/-- The curve of the national signatures. -/
def sm2 : Curve where
  arcs := [1, 2, 156, 10197, 1, 301]
  prime :=
    ofWords [0xfffffffeffffffff, 0xffffffffffffffff, 0xffffffff00000000, 0xffffffffffffffff]
  factor :=
    ofWords [0xfffffffeffffffff, 0xffffffffffffffff, 0xffffffff00000000, 0xfffffffffffffffc]
  constant :=
    ofWords [0x28e9fa9e9d9f5e34, 0x4d5a9e4bcf6509a7, 0xf39789f515ab8f92, 0xddbcbd414d940e93]

/-- The curves over prime fields, with their other name for one of them. -/
def all : List Curve :=
  NamedCurve.all ++
    [koblitz224, prime239First, prime239Second, prime239Third, random224, twisted224, twisted256,
      random320, twisted320, twisted384, twisted512, sm2,
      { NamedCurve.prime224 with arcs := [2, 23, 43, 1, 4, 12] }]

/-- The octets of a coordinate on the strong curves over bit rows. -/
def strongSizes : List (List Nat × Nat) :=
  [([1, 3, 132, 0, 26], 30), ([1, 3, 132, 0, 27], 30), ([1, 3, 132, 0, 3], 30),
    ([1, 3, 132, 0, 16], 36), ([1, 3, 132, 0, 17], 36), ([1, 3, 132, 0, 36], 52),
    ([1, 3, 132, 0, 37], 52), ([1, 3, 132, 0, 38], 72), ([1, 3, 132, 0, 39], 72),
    ([1, 2, 840, 10045, 3, 0, 11], 30), ([1, 2, 840, 10045, 3, 0, 12], 30),
    ([1, 2, 840, 10045, 3, 0, 13], 30), ([1, 2, 840, 10045, 3, 0, 16], 34),
    ([1, 2, 840, 10045, 3, 0, 17], 38), ([1, 2, 840, 10045, 3, 0, 18], 45),
    ([1, 2, 840, 10045, 3, 0, 19], 46), ([1, 2, 840, 10045, 3, 0, 20], 54),
    ([2, 23, 43, 1, 4, 10], 30), ([2, 23, 43, 1, 4, 11], 30)]

/-- The octets of a coordinate on the other curves, which are weak. -/
def weakSizes : List (List Nat × Nat) :=
  [([1, 3, 132, 0, 6], 14), ([1, 3, 132, 0, 7], 14), ([1, 3, 132, 0, 28], 16),
    ([1, 3, 132, 0, 29], 16), ([1, 3, 132, 0, 9], 20), ([1, 3, 132, 0, 8], 20),
    ([1, 3, 132, 0, 30], 20), ([1, 3, 132, 0, 31], 24), ([1, 2, 840, 10045, 3, 1, 2], 24),
    ([1, 2, 840, 10045, 3, 1, 3], 24), ([1, 3, 132, 0, 4], 15), ([1, 3, 132, 0, 5], 15),
    ([1, 3, 132, 0, 22], 17), ([1, 3, 132, 0, 23], 17), ([1, 3, 132, 0, 1], 21),
    ([1, 3, 132, 0, 2], 21), ([1, 3, 132, 0, 15], 21), ([1, 3, 132, 0, 24], 25),
    ([1, 3, 132, 0, 25], 25), ([1, 2, 840, 10045, 3, 0, 1], 21),
    ([1, 2, 840, 10045, 3, 0, 2], 21), ([1, 2, 840, 10045, 3, 0, 3], 21),
    ([1, 2, 840, 10045, 3, 0, 4], 22), ([1, 2, 840, 10045, 3, 0, 5], 24),
    ([1, 2, 840, 10045, 3, 0, 6], 24), ([1, 2, 840, 10045, 3, 0, 7], 24),
    ([1, 2, 840, 10045, 3, 0, 10], 26), ([2, 23, 43, 1, 4, 1], 15), ([2, 23, 43, 1, 4, 3], 21),
    ([2, 23, 43, 1, 4, 4], 15), ([2, 23, 43, 1, 4, 5], 21), ([2, 23, 43, 1, 4, 6], 14),
    ([2, 23, 43, 1, 4, 7], 20), ([2, 23, 43, 1, 4, 8], 14), ([2, 23, 43, 1, 4, 9], 20),
    ([1, 3, 36, 3, 3, 2, 8, 1, 1, 1], 20), ([1, 3, 36, 3, 3, 2, 8, 1, 1, 2], 20),
    ([1, 3, 36, 3, 3, 2, 8, 1, 1, 3], 24), ([1, 3, 36, 3, 3, 2, 8, 1, 1, 4], 24)]

/-- Whether octets have the length of a point with coordinates of some size. -/
def hasPointLength (size : Nat) : List UInt8 → Bool
  | [] => false
  | form :: coordinates =>
    let n := form.toNat
    (n = 2 || n = 3) && coordinates.length = size ||
      (n = 4 || n = 6 || n = 7) && coordinates.length = 2 * size

/-- The bits a number of points must have to be worth 112 bits. -/
def leastOrderBits : Nat := 224

/-- The most bits of a prime that is written out. -/
def mostPrimeBits : Nat := 661

/-- Whether octets are a point of a curve over a prime field, with or without
coordinates. -/
def hasPoint (c : Curve) (key : List UInt8) : Bool :=
  key = Curve.infinityOctets || c.isPoint key

/-- Whether octets have the length of a point, with or without coordinates. -/
def mayBePoint (size : Nat) (key : List UInt8) : Bool :=
  key = Curve.infinityOctets || hasPointLength size key

/-- Whether a curve with a name is strong, when octets are a point of it. -/
def namedStrength? (arcs : List Nat) (key : List UInt8) : Option Bool :=
  match all.find? fun c => c.arcs = arcs with
  | some c => if hasPoint c key then some (leastOrderBits ≤ c.prime.log2 + 1) else none
  | none =>
    match strongSizes.lookup arcs, weakSizes.lookup arcs with
    | some size, _ => if mayBePoint size key then some true else none
    | none, some size => if mayBePoint size key then some false else none
    | none, none => none

/-- Whether a curve that is written out is strong, when octets are a point of it. -/
def writtenStrength? (domain : Der.Element) (key : List UInt8) : Option Bool :=
  match domain.children? with
  | some (_ :: field :: coefficients :: base :: order :: _) =>
    let isStrong := (order.natural?).any fun n => leastOrderBits ≤ n.log2 + 1
    match field.children?, coefficients.children? with
    | some [kind, modulus], some (factor :: constant :: _) =>
      if kind.oid? = some Algorithm.primeFieldArcs then
        let c : Curve :=
          ⟨[], (modulus.natural?).getD 0, Der.natOf factor.content, Der.natOf constant.content⟩
        let isCurve := c.prime.log2 < mostPrimeBits && c.isPoint base.content
        if isCurve && hasPoint c key then some isStrong else none
      else if mayBePoint ((base.content.length - 1) / 2) key then some isStrong
      else none
    | _, _ => none
  | _ => none

end InstanceLink.TransportCurve
