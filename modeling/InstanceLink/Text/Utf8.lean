/-!
# Texts as bytes

Encoding of characters in one to four bytes and the strict decoding: no
overlong form, no surrogate, nothing above the last code point.
-/

namespace InstanceLink.Text

/-- The bytes of a text. -/
def encodeUtf8 (cs : List Char) : List UInt8 := cs.flatMap String.utf8EncodeChar

/-- The six low bits of a continuation byte. -/
def continuation? (b : UInt8) : Option Nat :=
  if 0x80 ≤ b.toNat && b.toNat ≤ 0xbf then some (b.toNat - 0x80) else none

/-- Whether a number is a code point other than a surrogate. -/
def isScalar (n : Nat) : Bool := n < 0xd800 || (0xdfff < n && n < 0x110000)

/-- A character by its code point, when it is one and needs at least the given
value for its length. -/
def scalar? (least n : Nat) : Option Char :=
  if least ≤ n && isScalar n then some (Char.ofNat n) else none

/-- The characters of well-formed bytes; nothing when any byte is out of place. -/
def decodeUtf8? : List UInt8 → Option (List Char)
  | [] => some []
  | a :: rest =>
    if a.toNat < 0x80 then (decodeUtf8? rest).map (Char.ofNat a.toNat :: ·)
    else if a.toNat < 0xc0 then none
    else if a.toNat < 0xe0 then
      match rest with
      | b :: rest => do
        let y ← continuation? b
        let c ← scalar? 0x80 (64 * (a.toNat - 0xc0) + y)
        (decodeUtf8? rest).map (c :: ·)
      | [] => none
    else if a.toNat < 0xf0 then
      match rest with
      | b :: c :: rest => do
        let y ← continuation? b
        let z ← continuation? c
        let c ← scalar? 0x800 (4096 * (a.toNat - 0xe0) + 64 * y + z)
        (decodeUtf8? rest).map (c :: ·)
      | _ => none
    else if a.toNat < 0xf8 then
      match rest with
      | b :: c :: d :: rest => do
        let x ← continuation? b
        let y ← continuation? c
        let z ← continuation? d
        let c ← scalar? 0x10000 (262144 * (a.toNat - 0xf0) + 4096 * x + 64 * y + z)
        (decodeUtf8? rest).map (c :: ·)
      | _ => none
    else none

end InstanceLink.Text
