/-!
# Base64

The alphabet and the encoding of bytes. Each group of three bytes becomes four
characters; a last group of one or two bytes is filled up with padding.
-/

namespace InstanceLink.Base64

/-- The character of a six-bit value. -/
def character (v : Nat) : Char :=
  if v < 26 then Char.ofNat (65 + v)
  else if v < 52 then Char.ofNat (71 + v)
  else if v < 62 then Char.ofNat (v - 4)
  else if v = 62 then '+'
  else '/'

/-- The six-bit value of a character of the alphabet. -/
def value? (c : Char) : Option Nat :=
  let n := c.toNat
  if 65 ≤ n && n ≤ 90 then some (n - 65)
  else if 97 ≤ n && n ≤ 122 then some (n - 71)
  else if 48 ≤ n && n ≤ 57 then some (n + 4)
  else if c = '+' then some 62
  else if c = '/' then some 63
  else none

/-- Every six-bit value is read back from its character. -/
theorem value?_character : ∀ v < 64, value? (character v) = some v := by decide

/-- The characters of a byte sequence, padding included. -/
def encode : List UInt8 → List Char
  | [] => []
  | [a] =>
    let n := a.toNat
    [character (n / 4), character (n % 4 * 16), '=', '=']
  | [a, b] =>
    let n := 256 * a.toNat + b.toNat
    [character (n / 1024), character (n / 16 % 64), character (n % 16 * 4), '=']
  | a :: b :: c :: rest =>
    let n := 65536 * a.toNat + 256 * b.toNat + c.toNat
    character (n / 262144) :: character (n / 4096 % 64) :: character (n / 64 % 64) ::
      character (n % 64) :: encode rest

/-- The bytes of whole groups of six-bit values; a last group of two or three
values gives one or two bytes and drops its spare bits. -/
def bytesOf : List Nat → List UInt8
  | a :: b :: c :: d :: rest =>
    let n := 262144 * a + 4096 * b + 64 * c + d
    UInt8.ofNat (n / 65536) :: UInt8.ofNat (n / 256 % 256) :: UInt8.ofNat (n % 256) ::
      bytesOf rest
  | [a, b, c] =>
    let n := 4096 * a + 64 * b + c
    [UInt8.ofNat (n / 1024), UInt8.ofNat (n / 4 % 256)]
  | [a, b] => [UInt8.ofNat ((64 * a + b) / 16)]
  | _ => []

/-- Encoded lengths are whole groups of four. -/
theorem encode_length (bytes : List UInt8) :
    (encode bytes).length = 4 * ((bytes.length + 2) / 3) := by
  fun_induction encode bytes with
  | case1 => rfl
  | case2 => simp only [List.length_cons, List.length_nil]
  | case3 => simp only [List.length_cons, List.length_nil]
  | case4 a b c rest n ih =>
    simp only [List.length_cons, ih]
    omega

end InstanceLink.Base64
