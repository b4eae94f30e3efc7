import InstanceLink.Der.Writer

/-!
# Shortest forms

Elements in the general form, whose lengths may be written with more octets than
needed or left open to an end mark, brought into the form with shortest lengths.
-/

namespace InstanceLink.Der

/-- A length at the front, written with any number of octets; nothing is given for a
length that is left open. -/
def anyLength? : List UInt8 → Option (Option Nat × List UInt8)
  | [] => none
  | b :: rest =>
    let n := b.toNat
    if n < 0x80 then some (some n, rest)
    else if n = 0x80 then some (none, rest)
    else
      let size := n - 0x80
      if rest.length < size then none else some (some (natOf (rest.take size)), rest.drop size)

/-- A short length reads the same in the general form. -/
theorem anyLength?_cons_of_lt (b : UInt8) (rest : List UInt8) (short : b.toNat < 0x80) :
    anyLength? (b :: rest) = some (some b.toNat, rest) := by
  simp [anyLength?, short]

/-- Whether an identifier announces elements inside. -/
def isConstructed (tag : Nat) : Bool := tag % 0x40 / 0x20 = 1

mutual

/-- The element at the front with shortest lengths throughout, and the octets behind
it. What is inside an element of given length stays as it is when it is not made of
elements. -/
def shortest? (fuel : Nat) (bytes : List UInt8) : Option (List UInt8 × List UInt8) :=
  match fuel with
  | 0 => none
  | fuel + 1 => do
    let (tag, rest) ← tag? bytes
    let identifier := bytes.take (bytes.length - rest.length)
    let (length, rest) ← anyLength? rest
    match length with
    | some size =>
      let inner := rest.take size
      let content :=
        if isConstructed tag then (shortestRun? fuel false inner).elim inner Prod.fst else inner
      if rest.length < size then none
      else some (identifier ++ lengthOctets content.length ++ content, rest.drop size)
    | none =>
      if isConstructed tag then do
        let (content, rest) ← shortestRun? fuel true rest
        return (identifier ++ lengthOctets content.length ++ content, rest)
      else none

/-- The elements of a run with shortest lengths, and the octets behind it. The run ends
with the octets or, when it is open, with the end mark. -/
def shortestRun? (fuel : Nat) (isOpen : Bool) (bytes : List UInt8) :
    Option (List UInt8 × List UInt8) :=
  match fuel with
  | 0 => none
  | fuel + 1 =>
    if bytes.isEmpty then if isOpen then none else some ([], [])
    else if isOpen && bytes.take 2 = [0, 0] then some ([], bytes.drop 2)
    else do
      let (first, rest) ← shortest? fuel bytes
      let (others, rest) ← shortestRun? fuel isOpen rest
      return (first ++ others, rest)

end

/-- The element at the front of some octets in the general form; what stands behind it
does not count. -/
def generalElement? (bytes : List UInt8) : Option Element := do
  let (octets, _) ← shortest? (2 * bytes.length + 1) bytes
  let (element, _) ← element? octets
  return element

/-- The octets of the pieces of a text that is given in pieces. -/
def pieces? (fuel : Nat) (content : List UInt8) : Option (List UInt8) :=
  match fuel with
  | 0 => none
  | fuel + 1 => do
    let parts ← elements? content.length content
    let texts ← parts.mapM fun e =>
      if isConstructed e.tag then pieces? fuel e.content else some e.content
    return texts.flatten

/-- How deep the pieces of a text may be nested. -/
def pieceDepth : Nat := 6

/-- The octets of a text element's contents, which may be given in pieces. -/
def textOctets? (tag : Nat) (content : List UInt8) : Option (List UInt8) :=
  if isConstructed tag then pieces? pieceDepth content else some content

end InstanceLink.Der
