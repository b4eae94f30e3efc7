import InstanceLink.Certificate.Basic
import InstanceLink.Der.Normal
import InstanceLink.Der.Row
import InstanceLink.Trust.Name

/-!
# Statements of a certificate

The extensions a trust store reads before it trusts a certificate at all. Each kind
has a fixed form and stands at most once. Lengths need not be in their shortest form
here, and what stands behind the form does not count.
-/

namespace InstanceLink.Statement

open Der (Element Place)

/-- The common part of the kinds of statements. -/
def kindFamily : List Nat := [2, 5, 29]

/-- The common part of the further kinds. -/
def furtherFamily : List Nat := [1, 3, 6, 1, 5, 5, 7, 1]

/-- Whether the key is an authority's. -/
def constraintsKind : List Nat := kindFamily ++ [19]

/-- What the key may be used for. -/
def usageKind : List Nat := kindFamily ++ [15]

/-- What the certificate may be used for, in the older form. -/
def olderUsageKind : List Nat := [2, 16, 840, 1, 113730, 1, 1]

/-- The identifier of the certified key. -/
def subjectKeyKind : List Nat := kindFamily ++ [14]

/-- The identifier of the key that signed. -/
def authorityKeyKind : List Nat := kindFamily ++ [35]

/-- Other names of the certified. -/
def otherNamesKind : List Nat := kindFamily ++ [17]

/-- Other names of the issuer. -/
def issuerNamesKind : List Nat := kindFamily ++ [18]

/-- That the certificate stands in for another. -/
def proxyKind : List Nat := furtherFamily ++ [14]

/-- A bit string in the lenient form: bits that do not count may be set. -/
def lenientBits? (e : Element) : Option Der.BitString :=
  match e.content with
  | unused :: octets =>
    if 7 < unused.toNat then none
    else
      let step := Nat.pow 2 unused.toNat
      let cleared := octets.getLast?.toList.map fun b => UInt8.ofNat (b.toNat / step * step)
      some ⟨unused.toNat, octets.dropLast ++ cleared⟩
  | [] => none

/-- A place for a bit string in the lenient form. -/
def bits : Place := ⟨Der.Tag.bitString, true, fun e => (lenientBits? e).isSome⟩

/-- Whether octets are the groups of an object identifier of any length: none starts with
zero bits, and the last one ends. `starts` tells that a group starts here. -/
def isIdentifierFrom (starts : Bool) : List UInt8 → Bool
  | [] => starts
  | b :: rest =>
    !(starts && b.toNat = 0x80) && isIdentifierFrom (b.toNat < 0x80) rest

/-- Whether octets are an object identifier of any length. -/
def isIdentifier (content : List UInt8) : Bool := !content.isEmpty && isIdentifierFrom true content

/-- A place for an object identifier of any length. -/
def identifier : Place := ⟨Der.Tag.objectIdentifier, true, fun e => isIdentifier e.content⟩

/-- An element where any is allowed: the contents of the plain kinds are checked. -/
def isPlausible (e : Element) : Bool :=
  match StoreName.universalNumber? e.tag with
  | none => true
  | some number =>
    let isWhole := !Der.isConstructed e.tag
    if number = 16 || number = 17 then !isWhole
    else if number = 0 && isWhole then !e.content.isEmpty
    else if number = 1 then isWhole && e.content.length = 1
    else if number = 2 || number = 10 then isWhole && Der.isInteger e.content
    else if number = 5 then isWhole && e.content.isEmpty
    else if number = 6 then isWhole && isIdentifier e.content
    else
      match Der.textOctets? e.tag e.content with
      | none => false
      | some content =>
        if number = 3 then content.head?.any (·.toNat < 8)
        else if number = 28 then content.length % 4 = 0
        else if number = 30 then content.length % 2 = 0
        else true

/-- The tags of texts in the names of parties. -/
def partyTags : List Nat := [0x0c, 0x13, 0x14, 0x1c, 0x1e]

/-- A name in a list of names of several kinds. -/
def isGeneralName (e : Element) : Bool :=
  if e.tag = Der.Tag.explicit 0 then
    e.children?.any (Der.fill [identifier, { Place.explicit 0 isPlausible with required := true }])
  else if e.tag = Der.Tag.context 1 || e.tag = Der.Tag.context 2 || e.tag = Der.Tag.context 6 ||
      e.tag = Der.Tag.context 7 then true
  else if e.tag = Der.Tag.explicit 3 then true
  else if e.tag = Der.Tag.explicit 4 then
    match e.children? with
    | some [name] => (StoreName.ofElement? name).isSome
    | _ => false
  else if e.tag = Der.Tag.explicit 5 then
    let isParty : Element → Bool := fun text => partyTags.contains text.tag && isPlausible text
    e.children?.any
      (Der.fill [.explicit 0 isParty, { Place.explicit 1 isParty with required := true }])
  else if e.tag = Der.Tag.context 8 then isIdentifier e.content
  else false

/-- Whether an element holds names of several kinds only. -/
def holdsNames (e : Element) : Bool := e.children?.any fun names => names.all isGeneralName

/-- A place that may stay empty, for an element with a tag of its own. -/
def tagged (tag : Nat) (fits : Element → Bool) : Place := ⟨tag, false, fits⟩

/-- Whether an element is a sequence of elements that fit. -/
def isSequenceOf (fits : Element → Bool) (e : Element) : Bool :=
  e.tag = Der.Tag.sequence && e.children?.any fun elements => elements.all fits

/-- Whether a tagged element is a whole number. -/
def isTaggedInteger (e : Element) : Bool := Der.isInteger e.content

/-- The identifier of the key that signed: its octets, names of its issuer, a serial. -/
def authorityKeyRow : List Place :=
  [tagged (Der.Tag.context 0) (fun _ => true), tagged (Der.Tag.explicit 1) holdsNames,
    tagged (Der.Tag.context 2) isTaggedInteger]

/-- A part of the name space: its base and the least and largest distance. -/
def isSubtree (e : Element) : Bool :=
  e.tag = Der.Tag.sequence &&
    match e.children? with
    | some (base :: distances) =>
      isGeneralName base &&
        Der.fill [tagged (Der.Tag.context 0) isTaggedInteger,
          tagged (Der.Tag.context 1) isTaggedInteger] distances
    | _ => false

/-- Whether a tagged element holds parts of the name space. -/
def holdsSubtrees (e : Element) : Bool := e.children?.any fun trees => trees.all isSubtree

/-- Where a list is published: full names, or attributes behind the issuer's name. -/
def isPointName (e : Element) : Bool :=
  if e.tag = Der.Tag.explicit 0 then holdsNames e
  else
    e.tag = Der.Tag.explicit 1 &&
      match e.children?.bind fun attributes => attributes.mapM StoreName.attribute? with
      | some set => StoreName.isReadable [set]
      | none => false

/-- A place where lists are published: it has a name, or an issuer with one. -/
def isPoint (e : Element) : Bool :=
  e.isRow [.explicit 0 isPointName,
      tagged (Der.Tag.context 1) (fun bits => (lenientBits? bits).isSome),
      tagged (Der.Tag.explicit 2) holdsNames] &&
    e.children?.any fun parts => parts.any fun part =>
      part.tag = Der.Tag.explicit 0 || (part.tag = Der.Tag.explicit 2 && !part.content.isEmpty)

/-- Blocks of addresses: all inherited ones, or prefixes and ranges. -/
def isAddressBlock (e : Element) : Bool :=
  let isRange : Element → Bool := fun range =>
    (range.tag = Der.Tag.bitString && (lenientBits? range).isSome) || range.isRow [bits, bits]
  e.tag = Der.Tag.sequence &&
    match e.children? with
    | some [family, choice] =>
      family.tag = Der.Tag.octetString && (choice.isNull || isSequenceOf isRange choice)
    | _ => false

/-- Numbers of systems: all inherited ones, or numbers and ranges. -/
def isSystemChoice (e : Element) : Bool :=
  let isRange : Element → Bool := fun range =>
    (range.tag = Der.Tag.integer && Der.isInteger range.content) ||
      range.isRow [.integer, .integer]
  e.isNull || isSequenceOf isRange e

/-- A flag, where false may be left out. -/
def flag : Place := ⟨Der.Tag.boolean, false, fun e => e.content.length = 1⟩

/-- The form of each kind of statement. -/
def forms : List (List Nat × (Element → Bool)) :=
  [(constraintsKind, Element.isRow [flag, .optional .natural]),
    (usageKind, fun e => e.tag = Der.Tag.bitString &&
      (lenientBits? e).any fun used => (used.octets.take 2).any (· != 0)),
    (kindFamily ++ [37], isSequenceOf fun e => e.tag = Der.Tag.objectIdentifier &&
      isIdentifier e.content),
    (olderUsageKind, fun e => e.tag = Der.Tag.bitString && (lenientBits? e).isSome),
    (subjectKeyKind, fun e => e.tag = Der.Tag.octetString),
    (authorityKeyKind, Element.isRow authorityKeyRow),
    (otherNamesKind, isSequenceOf isGeneralName),
    (kindFamily ++ [30], Element.isRow [tagged (Der.Tag.explicit 0) holdsSubtrees,
      tagged (Der.Tag.explicit 1) holdsSubtrees]),
    (kindFamily ++ [31], isSequenceOf isPoint),
    (furtherFamily ++ [7], isSequenceOf isAddressBlock),
    (furtherFamily ++ [8], Element.isRow [.explicit 0 isSystemChoice, .explicit 1 isSystemChoice]),
    (proxyKind, Element.isRow
      [.optional .integer, .sequence (Element.isRow [identifier, .optional .octets])])]

/-- The values of the extensions of a kind. -/
def values (c : Certificate) (kind : List Nat) : List (List UInt8) :=
  (c.extensions.filter fun e => e.kind = kind).map CertificateExtension.value

/-- A bit or octet string that is given in pieces, joined; any other element as it is. -/
def joined (e : Element) : Element :=
  if e.tag = Der.Tag.bitString + 0x20 || e.tag = Der.Tag.octetString + 0x20 then
    match Der.textOctets? e.tag e.content with
    | some content => ⟨e.tag - 0x20, content, e.octets⟩
    | none => e
  else e

/-- The statement of a kind, when it stands once and has its form. -/
def find? (c : Certificate) (kind : List Nat) : Option Element :=
  match values c kind with
  | [value] =>
    ((Der.generalElement? value).map joined).filter fun e =>
      (forms.lookup kind).any fun fits => fits e
  | _ => none

/-- Whether statements of a kind are absent or one of the right form. -/
def isSound (c : Certificate) (kind : List Nat) : Bool :=
  (values c kind).isEmpty || (find? c kind).isSome

/-- Whether the constraints name an authority. -/
def statesAuthority (constraints : Element) : Bool :=
  match constraints.children? with
  | some (first :: _) => first.tag = Der.Tag.boolean && first.content != [0]
  | _ => false

/-- Whether a statement that the certificate stands in for another has company that it
must not have. -/
def isMisplacedProxy (c : Certificate) : Bool :=
  (find? c proxyKind).isSome &&
    ((find? c constraintsKind).any statesAuthority || !(values c otherNamesKind).isEmpty ||
      !(values c issuerNamesKind).isEmpty)

/-- Whether all statements that a trust store reads are sound. -/
def allSound (c : Certificate) : Bool :=
  forms.all (fun form => isSound c form.1) && !isMisplacedProxy c

/-- The first octet of a bit string's statement; zero when there is none. -/
def firstOctet (e : Element) : Nat :=
  (((lenientBits? e).map Der.BitString.octets).bind List.head?).elim 0 UInt8.toNat

end InstanceLink.Statement
