import InstanceLink.Text.Utf8
import Mathlib.Tactic.SplitIfs

/-!
# Decoding of encoded texts

Every text is decoded again from the bytes it is encoded as. A byte below 128 stands for a
character of its own; all other characters are encoded without such bytes.
-/

namespace InstanceLink.Text

/-- A small number is the value of its byte. -/
theorem toNat_byte {n : Nat} (h : n < 256) : (UInt8.ofNat n).toNat = n := by
  rw [UInt8.toNat_ofNat', Nat.mod_eq_of_lt h]

/-- A plain character is told from a byte by its code point. -/
theorem byte_ne {c : Char} {b : UInt8} (hc : c.toNat < 128) (hne : c.toNat ≠ b.toNat) :
    UInt8.ofNat c.toNat ≠ b := by
  rintro rfl
  exact hne (toNat_byte (by omega)).symm

/-- A byte in the upper part of a continuation holds six bits. -/
theorem continuation?_byte {n : Nat} (h : n < 64) :
    continuation? (UInt8.ofNat (n + 128)) = some n := by
  have hn : (UInt8.ofNat (n + 128)).toNat = n + 128 := toNat_byte (by omega)
  rw [continuation?, hn, if_pos (by simp; omega), Nat.add_sub_cancel]

/-- A character is told by its code point. -/
theorem scalar?_toNat {least : Nat} {c : Char} (h : least ≤ c.toNat) :
    scalar? least c.toNat = some c := by
  have hvalid : c.toNat < 0xd800 ∨ 0xdfff < c.toNat ∧ c.toNat < 0x110000 := c.valid
  have hscalar : isScalar c.toNat = true := by simpa [isScalar] using hvalid
  rw [scalar?, hscalar, if_pos (by simpa using h), Char.ofNat_toNat]

section Forms

/-! The forms of one to four bytes, each with as many low bits in its first byte as it has room
for and six in every other. -/

variable {c : Char} {w x y z : Nat} (rest : List UInt8)

/-- A byte below 128 is a character of its own. -/
theorem decodeUtf8?_one (hc : c.toNat < 128) :
    decodeUtf8? (UInt8.ofNat c.toNat :: rest) = (decodeUtf8? rest).map (c :: ·) := by
  have ha := toNat_byte (n := c.toNat) (by omega)
  rw [decodeUtf8?.eq_def]
  simp only [ha, if_pos hc, Char.ofNat_toNat]

/-- Two bytes for the characters from 128 on. -/
theorem decodeUtf8?_two (hx : x < 32) (hy : y < 64) (hc : c.toNat = 64 * x + y)
    (hleast : 0x80 ≤ c.toNat) :
    decodeUtf8? (UInt8.ofNat (x + 192) :: UInt8.ofNat (y + 128) :: rest) =
      (decodeUtf8? rest).map (c :: ·) := by
  have ha := toNat_byte (n := x + 192) (by omega)
  rw [decodeUtf8?.eq_def]
  simp only [ha, if_neg (show ¬x + 192 < 128 by omega), if_neg (show ¬x + 192 < 192 by omega),
    if_pos (show x + 192 < 224 by omega), continuation?_byte hy, Option.bind_eq_bind,
    Option.bind_some, Nat.add_sub_cancel, ← hc, scalar?_toNat hleast]

/-- Three bytes for the characters from 2048 on. -/
theorem decodeUtf8?_three (hx : x < 16) (hy : y < 64) (hz : z < 64)
    (hc : c.toNat = 4096 * x + 64 * y + z) (hleast : 0x800 ≤ c.toNat) :
    decodeUtf8?
        (UInt8.ofNat (x + 224) :: UInt8.ofNat (y + 128) :: UInt8.ofNat (z + 128) :: rest) =
      (decodeUtf8? rest).map (c :: ·) := by
  have ha := toNat_byte (n := x + 224) (by omega)
  rw [decodeUtf8?.eq_def]
  simp only [ha, if_neg (show ¬x + 224 < 128 by omega), if_neg (show ¬x + 224 < 192 by omega),
    if_neg (show ¬x + 224 < 224 by omega), if_pos (show x + 224 < 240 by omega),
    continuation?_byte hy, continuation?_byte hz, Option.bind_eq_bind, Option.bind_some,
    Nat.add_sub_cancel, ← hc, scalar?_toNat hleast]

/-- Four bytes for the characters from 65536 on. -/
theorem decodeUtf8?_four (hw : w < 8) (hx : x < 64) (hy : y < 64) (hz : z < 64)
    (hc : c.toNat = 262144 * w + 4096 * x + 64 * y + z) (hleast : 0x10000 ≤ c.toNat) :
    decodeUtf8?
        (UInt8.ofNat (w + 240) :: UInt8.ofNat (x + 128) :: UInt8.ofNat (y + 128) ::
          UInt8.ofNat (z + 128) :: rest) =
      (decodeUtf8? rest).map (c :: ·) := by
  have ha := toNat_byte (n := w + 240) (by omega)
  rw [decodeUtf8?.eq_def]
  simp only [ha, if_neg (show ¬w + 240 < 128 by omega), if_neg (show ¬w + 240 < 192 by omega),
    if_neg (show ¬w + 240 < 224 by omega), if_neg (show ¬w + 240 < 240 by omega),
    if_pos (show w + 240 < 248 by omega), continuation?_byte hx, continuation?_byte hy,
    continuation?_byte hz, Option.bind_eq_bind, Option.bind_some, Nat.add_sub_cancel, ← hc,
    scalar?_toNat hleast]

end Forms

/-- The bytes of a character are decoded as that character, whatever follows. -/
theorem decodeUtf8?_utf8EncodeChar_append (c : Char) (rest : List UInt8) :
    decodeUtf8? (String.utf8EncodeChar c ++ rest) = (decodeUtf8? rest).map (c :: ·) := by
  have hcode : c.val.toNat = c.toNat := rfl
  have hlast : c.toNat < 0xd800 ∨ 0xdfff < c.toNat ∧ c.toNat < 0x110000 := c.valid
  rw [String.utf8EncodeChar, hcode]
  split_ifs with hone htwo hthree
  · exact decodeUtf8?_one rest (by omega)
  · exact decodeUtf8?_two rest (by omega) (by omega) (by omega) (by omega)
  · exact decodeUtf8?_three rest (by omega) (by omega) (by omega) (by omega) (by omega)
  · exact decodeUtf8?_four rest (by omega) (by omega) (by omega) (by omega) (by omega) (by omega)

/-- An encoded text is decoded as it was. -/
theorem decodeUtf8?_encodeUtf8 (cs : List Char) : decodeUtf8? (encodeUtf8 cs) = some cs := by
  induction cs with
  | nil => rfl
  | cons c cs ih =>
    have hcs : encodeUtf8 (c :: cs) = String.utf8EncodeChar c ++ encodeUtf8 cs := List.flatMap_cons
    rw [hcs, decodeUtf8?_utf8EncodeChar_append, ih, Option.map_some]

/-- Texts in a row are encoded in a row. -/
theorem encodeUtf8_append (before after : List Char) :
    encodeUtf8 (before ++ after) = encodeUtf8 before ++ encodeUtf8 after :=
  List.flatMap_append

/-- A byte below 128 encodes the character with that code point. -/
theorem toNat_of_mem_encodeUtf8 {cs : List Char} {b : UInt8} (hb : b ∈ encodeUtf8 cs)
    (hlow : b.toNat < 128) : ∃ c ∈ cs, c.toNat = b.toNat := by
  obtain ⟨c, hc, hbyte⟩ := List.mem_flatMap.mp hb
  refine ⟨c, hc, ?_⟩
  -- All bytes of the longer forms have their high bit set.
  have hhigh : ∀ {n high : Nat}, 128 ≤ high → n + high < 256 → b = UInt8.ofNat (n + high) →
      c.toNat = b.toNat := by
    rintro n high hhigh hbound rfl
    rw [toNat_byte hbound] at hlow
    omega
  have hcode : c.val.toNat = c.toNat := rfl
  rw [String.utf8EncodeChar, hcode] at hbyte
  split_ifs at hbyte with hone htwo hthree
  · rw [List.mem_singleton.mp hbyte, toNat_byte (by omega)]
  all_goals
    simp only [List.mem_cons, List.not_mem_nil, or_false] at hbyte
  · rcases hbyte with h | h <;> exact hhigh (by omega) (by omega) h
  · rcases hbyte with h | h | h <;> exact hhigh (by omega) (by omega) h
  · rcases hbyte with h | h | h | h <;> exact hhigh (by omega) (by omega) h

/-- A plain text is encoded by its code points, one byte each. -/
theorem encodeUtf8_of_plain {cs : List Char} (h : ∀ c ∈ cs, c.toNat < 128) :
    encodeUtf8 cs = cs.map fun c => UInt8.ofNat c.toNat := by
  induction cs with
  | nil => rfl
  | cons c cs ih =>
    obtain ⟨hc, hcs⟩ := List.forall_mem_cons.mp h
    have hcode : c.val.toNat = c.toNat := rfl
    have hone : String.utf8EncodeChar c = [UInt8.ofNat c.toNat] := by
      rw [String.utf8EncodeChar, hcode, if_pos (Nat.le_of_lt_succ hc)]
    rw [encodeUtf8, List.flatMap_cons, hone]
    exact congrArg _ (ih hcs)

end InstanceLink.Text
