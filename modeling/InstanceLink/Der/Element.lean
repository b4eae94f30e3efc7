/-!
# Tagged elements

Reading of definite-length tagged elements: identifier, shortest-form length of
at most four octets, and that many octets of content.
-/

namespace InstanceLink.Der

/-- One element as it was read. -/
structure Element where
  /-- The identifier octet; a long identifier adds 256 times its number. -/
  tag : Nat
  /-- The content octets. -/
  content : List UInt8
  /-- The element's own octets, identifier and length included. -/
  octets : List UInt8
  deriving DecidableEq, Repr

/-- The number in the low five bits that announces a long identifier. -/
def longMark : Nat := 31

/-- A number in groups of seven bits, the high bit set on all but the last; it has
no leading zero group and at most `fuel` groups. -/
def groups7? (fuel : Nat) (started : Bool) (value : Nat) :
    List UInt8 → Option (Nat × List UInt8)
  | [] => none
  | b :: rest =>
    match fuel with
    | 0 => none
    | fuel + 1 =>
      let n := b.toNat
      if n = 0x80 && !started then none
      else if n < 0x80 then some (128 * value + n, rest)
      else groups7? fuel true (128 * value + (n - 0x80)) rest

/-- An identifier at the front. -/
def tag? : List UInt8 → Option (Nat × List UInt8)
  | [] => none
  | b :: rest =>
    let n := b.toNat
    if n % 32 = longMark then do
      let (number, rest) ← groups7? 5 false 0 rest
      if number < longMark || 0x100000000 ≤ number then none else return (n + 256 * number, rest)
    else some (n, rest)

/-- The value of octets, most significant first. -/
def natOf (bytes : List UInt8) : Nat := bytes.foldl (fun n b => 256 * n + b.toNat) 0

/-- A last octet counts once, and what stands before it 256 times. -/
theorem natOf_append_singleton (bytes : List UInt8) (b : UInt8) :
    natOf (bytes ++ [b]) = 256 * natOf bytes + b.toNat := by
  simp [natOf, List.foldl_append]

/-- A length at the front, in its shortest form. -/
def length? : List UInt8 → Option (Nat × List UInt8)
  | [] => none
  | b :: rest =>
    let n := b.toNat
    if n < 0x80 then some (n, rest)
    else
      let size := n - 0x80
      let value := natOf (rest.take size)
      let least := if size = 1 then 0x80 else Nat.pow 256 (size - 1)
      if size = 0 || 4 < size || rest.length < size || value < least then none
      else some (value, rest.drop size)

/-- An element at the front and the octets behind it. -/
def element? (bytes : List UInt8) : Option (Element × List UInt8) := do
  let (tag, rest) ← tag? bytes
  let (size, rest) ← length? rest
  if rest.length < size then none
  else
    let behind := rest.drop size
    return (⟨tag, rest.take size, bytes.take (bytes.length - behind.length)⟩, behind)

/-- The elements that fill some octets exactly. -/
def elements? (fuel : Nat) (bytes : List UInt8) : Option (List Element) :=
  match fuel, bytes with
  | _, [] => some []
  | 0, _ => none
  | fuel + 1, bytes => do
    let (element, rest) ← element? bytes
    let others ← elements? fuel rest
    return element :: others

/-- The elements inside an element. -/
def Element.children? (e : Element) : Option (List Element) :=
  elements? e.content.length e.content

/-- The only element of some octets. -/
def single? (bytes : List UInt8) : Option Element :=
  match element? bytes with
  | some (e, []) => some e
  | _ => none

end InstanceLink.Der
