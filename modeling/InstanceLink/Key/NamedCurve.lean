import InstanceLink.Der.Algorithm
import InstanceLink.Key.Curve

/-!
# Curves with names

The curves a key may be on: three sizes of older curves and five general ones are
known by their object identifiers, and three of them also when they are written out.
-/

namespace InstanceLink.NamedCurve

/-- The number of some words of 64 bits, the largest place first. -/
def ofWords (words : List Nat) : Nat := words.foldl (fun n word => 0x10000000000000000 * n + word) 0

/-- A further word counts once, and what stands before it 2^64 times. -/
theorem ofWords_append_singleton (words : List Nat) (word : Nat) :
    ofWords (words ++ [word]) = 0x10000000000000000 * ofWords words + word := by
  simp [ofWords, List.foldl_append]

/-- The curve over a prime of 192 bits. -/
def prime192 : Curve where
  arcs := [1, 2, 840, 10045, 3, 1, 1]
  prime :=
    ofWords [0xffffffffffffffff, 0xfffffffffffffffe, 0xffffffffffffffff]
  factor :=
    ofWords [0xffffffffffffffff, 0xfffffffffffffffe, 0xfffffffffffffffc]
  constant :=
    ofWords [0x64210519e59c80e7, 0x0fa7e9ab72243049, 0xfeb8deecc146b9b1]

/-- The curve over a prime of 224 bits. -/
def prime224 : Curve where
  arcs := [1, 3, 132, 0, 33]
  prime :=
    ofWords [0xffffffff, 0xffffffffffffffff, 0xffffffff00000000, 0x0000000000000001]
  factor :=
    ofWords [0xffffffff, 0xffffffffffffffff, 0xfffffffeffffffff, 0xfffffffffffffffe]
  constant :=
    ofWords [0xb4050a85, 0x0c04b3abf5413256, 0x5044b0b7d7bfd8ba, 0x270b39432355ffb4]

/-- The curve over a prime of 256 bits. -/
def prime256 : Curve where
  arcs := [1, 2, 840, 10045, 3, 1, 7]
  prime :=
    ofWords [0xffffffff00000001, 0x0000000000000000, 0x00000000ffffffff, 0xffffffffffffffff]
  factor :=
    ofWords [0xffffffff00000001, 0x0000000000000000, 0x00000000ffffffff, 0xfffffffffffffffc]
  constant :=
    ofWords [0x5ac635d8aa3a93e7, 0xb3ebbd55769886bc, 0x651d06b0cc53b0f6, 0x3bce3c3e27d2604b]

/-- The curve over a prime of 384 bits. -/
def prime384 : Curve where
  arcs := [1, 3, 132, 0, 34]
  prime :=
    ofWords [0xffffffffffffffff, 0xffffffffffffffff, 0xffffffffffffffff, 0xfffffffffffffffe,
      0xffffffff00000000, 0x00000000ffffffff]
  factor :=
    ofWords [0xffffffffffffffff, 0xffffffffffffffff, 0xffffffffffffffff, 0xfffffffffffffffe,
      0xffffffff00000000, 0x00000000fffffffc]
  constant :=
    ofWords [0xb3312fa7e23ee7e4, 0x988e056be3f82d19, 0x181d9c6efe814112, 0x0314088f5013875a,
      0xc656398d8a2ed19d, 0x2a85c8edd3ec2aef]

/-- The curve over a prime of 521 bits. -/
def prime521 : Curve where
  arcs := [1, 3, 132, 0, 35]
  prime :=
    ofWords [0x1ff, 0xffffffffffffffff, 0xffffffffffffffff, 0xffffffffffffffff,
      0xffffffffffffffff, 0xffffffffffffffff, 0xffffffffffffffff, 0xffffffffffffffff,
      0xffffffffffffffff]
  factor :=
    ofWords [0x1ff, 0xffffffffffffffff, 0xffffffffffffffff, 0xffffffffffffffff,
      0xffffffffffffffff, 0xffffffffffffffff, 0xffffffffffffffff, 0xffffffffffffffff,
      0xfffffffffffffffc]
  constant :=
    ofWords [0x51, 0x953eb9618e1c9a1f, 0x929a21a0b68540ee, 0xa2da725b99b315f3,
      0xb8b489918ef109e1, 0x56193951ec7e937b, 0x1652c0bd3bb1bf07, 0x3573df883d2c34f1,
      0xef451fd46b503f00]

/-- The curve over a prime of 256 bits, without a factor. -/
def koblitz256 : Curve where
  arcs := [1, 3, 132, 0, 10]
  prime :=
    ofWords [0xffffffffffffffff, 0xffffffffffffffff, 0xffffffffffffffff, 0xfffffffefffffc2f]
  factor := 0
  constant := 7

/-- The curve over a random prime of 256 bits. -/
def random256 : Curve where
  arcs := [1, 3, 36, 3, 3, 2, 8, 1, 1, 7]
  prime :=
    ofWords [0xa9fb57dba1eea9bc, 0x3e660a909d838d72, 0x6e3bf623d5262028, 0x2013481d1f6e5377]
  factor :=
    ofWords [0x7d5a0975fc2c3057, 0xeef67530417affe7, 0xfb8055c126dc5c6c, 0xe94a4b44f330b5d9]
  constant :=
    ofWords [0x26dc5c6ce94a4b44, 0xf330b5d9bbd77cbf, 0x958416295cf7e1ce, 0x6bccdc18ff8c07b6]

/-- The curve over a random prime of 384 bits. -/
def random384 : Curve where
  arcs := [1, 3, 36, 3, 3, 2, 8, 1, 1, 11]
  prime :=
    ofWords [0x8cb91e82a3386d28, 0x0f5d6f7e50e641df, 0x152f7109ed5456b4, 0x12b1da197fb71123,
      0xacd3a729901d1a71, 0x874700133107ec53]
  factor :=
    ofWords [0x7bc382c63d8c150c, 0x3c72080ace05afa0, 0xc2bea28e4fb22787, 0x139165efba91f90f,
      0x8aa5814a503ad4eb, 0x04a8c7dd22ce2826]
  constant :=
    ofWords [0x4a8c7dd22ce2826, 0x8b39b55416f0447c, 0x2fb77de107dcd2a6, 0x2e880ea53eeb62d5,
      0x7cb4390295dbc994, 0x3ab78696fa504c11]

/-- The curve over a random prime of 512 bits. -/
def random512 : Curve where
  arcs := [1, 3, 36, 3, 3, 2, 8, 1, 1, 13]
  prime :=
    ofWords [0xaadd9db8dbe9c48b, 0x3fd4e6ae33c9fc07, 0xcb308db3b3c9d20e, 0xd6639cca70330871,
      0x7d4d9b009bc66842, 0xaecda12ae6a380e6, 0x2881ff2f2d82c685, 0x28aa6056583a48f3]
  factor :=
    ofWords [0x7830a3318b603b89, 0xe2327145ac234cc5, 0x94cbdd8d3df91610, 0xa83441caea9863bc,
      0x2ded5d5aa8253aa1, 0x0a2ef1c98b9ac8b5, 0x7f1117a72bf2c7b9, 0xe7c1ac4d77fc94ca]
  constant :=
    ofWords [0x3df91610a83441ca, 0xea9863bc2ded5d5a, 0xa8253aa10a2ef1c9, 0x8b9ac8b57f1117a7,
      0x2bf2c7b9e7c1ac4d, 0x77fc94cadc083e67, 0x984050b75ebae5dd, 0x2809bd638016f723]

/-- The curves that are known by name. -/
def all : List Curve :=
  [prime192, prime224, prime256, prime384, prime521, koblitz256, random256, random384, random512]

/-- The curve of an object identifier. -/
def find? (arcs : List Nat) : Option Curve := all.find? fun c => c.arcs = arcs

/-- A curve that is found has the identifier it was looked up by. -/
theorem arcs_of_find? {arcs : List Nat} {c : Curve} (found : find? arcs = some c) :
    c.arcs = arcs := by
  simpa using List.find?_some found

/-- What is written beside a curve when it is written out. -/
structure Frame where
  curve : Curve
  /-- The coordinates of the base point. -/
  base : Nat × Nat
  /-- The number of multiples of the base point. -/
  order : Nat
  /-- The number the constant was derived from. -/
  seed : Nat
  deriving DecidableEq, Repr

/-- What is written out with the curve over a prime of 256 bits. -/
def prime256Frame : Frame where
  curve := prime256
  base :=
    (ofWords [0x6b17d1f2e12c4247, 0xf8bce6e563a440f2, 0x77037d812deb33a0, 0xf4a13945d898c296],
      ofWords [0x4fe342e2fe1a7f9b, 0x8ee7eb4a7c0f9e16, 0x2bce33576b315ece, 0xcbb6406837bf51f5])
  order :=
    ofWords [0xffffffff00000000, 0xffffffffffffffff, 0xbce6faada7179e84, 0xf3b9cac2fc632551]
  seed :=
    ofWords [0xc49d3608, 0x86e704936a6678e1, 0x139d26b7819f7e90]

/-- What is written out with the curve over a prime of 384 bits. -/
def prime384Frame : Frame where
  curve := prime384
  base :=
    (ofWords [0xaa87ca22be8b0537, 0x8eb1c71ef320ad74, 0x6e1d3b628ba79b98, 0x59f741e082542a38,
        0x5502f25dbf55296c, 0x3a545e3872760ab7],
      ofWords [0x3617de4a96262c6f, 0x5d9e98bf9292dc29, 0xf8f41dbd289a147c, 0xe9da3113b5f0b8c0,
        0x0a60b1ce1d7e819d, 0x7a431d7c90ea0e5f])
  order :=
    ofWords [0xffffffffffffffff, 0xffffffffffffffff, 0xffffffffffffffff, 0xc7634d81f4372ddf,
      0x581a0db248b0a77a, 0xecec196accc52973]
  seed :=
    ofWords [0xa335926a, 0xa319a27a1d00896a, 0x6773a4827acdac73]

/-- What is written out with the curve over a prime of 521 bits. -/
def prime521Frame : Frame where
  curve := prime521
  base :=
    (ofWords [0xc6, 0x858e06b70404e9cd, 0x9e3ecb662395b442, 0x9c648139053fb521,
        0xf828af606b4d3dba, 0xa14b5e77efe75928, 0xfe1dc127a2ffa8de, 0x3348b3c1856a429b,
        0xf97e7e31c2e5bd66],
      ofWords [0x118, 0x39296a789a3bc004, 0x5c8a5fb42c7d1bd9, 0x98f54449579b4468,
        0x17afbd17273e662c, 0x97ee72995ef42640, 0xc550b9013fad0761, 0x353c7086a272c240,
        0x88be94769fd16650])
  order :=
    ofWords [0x1ff, 0xffffffffffffffff, 0xffffffffffffffff, 0xffffffffffffffff,
      0xfffffffffffffffa, 0x51868783bf2f966b, 0x7fcc0148f709a5d0, 0x3bb5c9b8899c47ae,
      0xbb6fb71e91386409]
  seed :=
    ofWords [0xd09e8800, 0x291cb85396cc6717, 0x393284aaa0da64ba]

/-- The octets of a seed. -/
def seedSize : Nat := 20

/-- Whether octets are a number written with so many of them. -/
def isWritten (size n : Nat) (bytes : List UInt8) : Bool :=
  bytes.length = size && Der.natOf bytes = n

/-- Whether an element is the field below a prime. -/
def isFieldOf (prime : Nat) (e : Der.Element) : Bool :=
  match e.children? with
  | some [kind, modulus] =>
    kind.oid? = some Algorithm.primeFieldArcs && modulus.natural? = some prime
  | _ => false

/-- Whether an element holds the two coefficients and, if anything follows, the seed. -/
def Frame.hasCoefficients (f : Frame) (e : Der.Element) : Bool :=
  match e.children? with
  | some (factor :: constant :: rest) =>
    isWritten f.curve.size f.curve.factor factor.content &&
      isWritten f.curve.size f.curve.constant constant.content &&
      rest.all fun seed =>
        seed.bitString?.any fun bits => bits.unused = 0 && isWritten seedSize f.seed bits.octets
  | _ => false

/-- Whether octets are the base point with both coordinates. -/
def Frame.hasBase (f : Frame) (bytes : List UInt8) : Bool :=
  bytes.head? = some 4 &&
    isWritten f.curve.size f.base.1 ((bytes.drop 1).take f.curve.size) &&
    isWritten f.curve.size f.base.2 ((bytes.drop 1).drop f.curve.size)

/-- Whether an element is the curve, written out in the first version. -/
def Frame.matches (f : Frame) (e : Der.Element) : Bool :=
  match e.children? with
  | some [version, field, coefficients, base, order, cofactor] =>
    version.natural? = some 1 && isFieldOf f.curve.prime field &&
      f.hasCoefficients coefficients && f.hasBase base.content &&
      order.natural? = some f.order && cofactor.natural? = some 1
  | _ => false

/-- The curve of an element that writes it out. -/
def written? (e : Der.Element) : Option Curve :=
  ([prime256Frame, prime384Frame, prime521Frame].find? fun f => f.matches e).map Frame.curve

end InstanceLink.NamedCurve
