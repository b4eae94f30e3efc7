import InstanceLink.Base64.Basic

/-!
# Strict reading of base64

Nothing but the alphabet and padding is accepted, padding stands at the end only,
and the last group must be complete. Each refusal has its own cause.
-/

namespace InstanceLink.Base64

/-- Why a text is not base64. -/
inductive Refusal where
  /-- The first character is padding. -/
  | leadingPadding
  /-- Something follows the padding that completes a group. -/
  | excessData
  /-- A character is neither padding nor of the alphabet. -/
  | foreignCharacter
  /-- A data character follows padding. -/
  | discontinuousPadding
  /-- The last group holds a single character; the count is of all of them. -/
  | loneCharacter (count : Nat)
  /-- The last group lacks padding. -/
  | incorrectPadding
  deriving DecidableEq, Repr

/-- The wording of a refusal. -/
def Refusal.message : Refusal → String
  | .leadingPadding => "Leading padding not allowed"
  | .excessData => "Excess data after padding"
  | .foreignCharacter => "Only base64 data is allowed"
  | .discontinuousPadding => "Discontinuous padding not allowed"
  | .loneCharacter count =>
    "Invalid base64-encoded string: number of data characters (" ++ toString count ++
      ") cannot be 1 more than a multiple of 4"
  | .incorrectPadding => "Incorrect padding"

/-- What has been read so far. -/
structure Progress where
  /-- Six-bit values, newest first. -/
  values : List Nat
  /-- How many values the open group holds. -/
  filled : Nat
  /-- Padding characters since the last value. -/
  pads : Nat
  /-- Whether any padding has been read. -/
  padded : Bool

/-- Read on from some progress; padding that completes a group ends the data. -/
def readFrom (p : Progress) : List Char → Except Refusal (List Nat)
  | [] =>
    if p.filled = 0 then .ok p.values.reverse
    else if p.filled = 1 then .error (.loneCharacter p.values.length)
    else .error .incorrectPadding
  | c :: rest =>
    if c = '=' then
      if 2 ≤ p.filled then
        if 4 ≤ p.filled + p.pads + 1 then
          if rest.isEmpty then .ok p.values.reverse else .error .excessData
        else readFrom ⟨p.values, p.filled, p.pads + 1, true⟩ rest
      else readFrom ⟨p.values, p.filled, p.pads, true⟩ rest
    else
      match value? c with
      | none => .error .foreignCharacter
      | some v =>
        if p.padded then .error .discontinuousPadding
        else readFrom ⟨v :: p.values, (p.filled + 1) % 4, 0, p.padded⟩ rest

/-- The bytes of a strictly written base64 text. -/
def decode (cs : List Char) : Except Refusal (List UInt8) :=
  if cs.head? = some '=' then .error .leadingPadding
  else (readFrom ⟨[], 0, 0, false⟩ cs).map bytesOf

end InstanceLink.Base64
