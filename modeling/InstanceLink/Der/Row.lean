import InstanceLink.Der.Primitive

/-!
# Rows of elements

A sequence is a row of places, each announced by a tag. Places that may stay empty
are skipped when the next element has another tag, and every element has to find
its place.
-/

namespace InstanceLink.Der

/-- One place in a row. -/
structure Place where
  /-- The tag that announces an element for this place. -/
  tag : Nat
  /-- Whether the place must be taken. -/
  required : Bool
  /-- Whether an element with the tag fits. -/
  fits : Element → Bool

namespace Place

/-- An octet string. -/
def octets : Place := ⟨Tag.octetString, true, fun _ => true⟩

/-- An octet string of so many octets. -/
def octetsOfSize (size : Nat) : Place := ⟨Tag.octetString, true, fun e => e.content.length = size⟩

/-- A whole number. -/
def integer : Place := ⟨Tag.integer, true, fun e => isInteger e.content⟩

/-- A natural number. -/
def natural : Place := ⟨Tag.integer, true, fun e => e.natural?.isSome⟩

/-- A natural number of at most so many bits. -/
def word (bits : Nat) : Place := ⟨Tag.integer, true, fun e => (e.word? bits).isSome⟩

/-- A bit string. -/
def bits : Place := ⟨Tag.bitString, true, fun e => e.bitString?.isSome⟩

/-- An object identifier. -/
def name : Place := ⟨Tag.objectIdentifier, true, fun e => e.oid?.isSome⟩

/-- A sequence of any content, further checked. -/
def sequence (fits : Element → Bool) : Place := ⟨Tag.sequence, true, fits⟩

/-- The same place, which may stay empty. -/
def optional (p : Place) : Place := { p with required := false }

/-- A place that may stay empty, for an explicit element around one other. -/
def explicit (number : Nat) (fits : Element → Bool) : Place :=
  ⟨Tag.explicit number, false, fun e =>
    match e.children? with
    | some [inner] => fits inner
    | _ => false⟩

end Place

/-- Whether elements take the places of a row, in order. -/
def fill : List Place → List Element → Bool
  | [], elements => elements.isEmpty
  | p :: places, [] => !p.required && fill places []
  | p :: places, e :: elements =>
    if e.tag = p.tag then p.fits e && fill places elements
    else !p.required && fill places (e :: elements)

/-- A row without required places may stay empty. -/
theorem fill_nil (places : List Place) : fill places [] = places.all fun p => !p.required := by
  induction places with
  | nil => rfl
  | cons p places ih => simp [fill, ih]

/-- An element takes the first place of its tag. -/
theorem fill_cons_of_tag (p : Place) (places : List Place) (e : Element) (elements : List Element)
    (announced : e.tag = p.tag) :
    fill (p :: places) (e :: elements) = (p.fits e && fill places elements) := by
  simp [fill, announced]

/-- Whether an element is a sequence of the given places. -/
def Element.isRow (places : List Place) (e : Element) : Bool :=
  e.tag = Tag.sequence && e.children?.any (fill places)

end InstanceLink.Der
