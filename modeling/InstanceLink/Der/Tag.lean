/-!
# Tags

The identifier octets the library meets.
-/

namespace InstanceLink.Der.Tag

/-- Truth values. -/
def boolean : Nat := 0x01

/-- Whole numbers. -/
def integer : Nat := 0x02

/-- Bit strings. -/
def bitString : Nat := 0x03

/-- Octet strings. -/
def octetString : Nat := 0x04

/-- The empty value. -/
def null : Nat := 0x05

/-- Object identifiers. -/
def objectIdentifier : Nat := 0x06

/-- Text in variable-length bytes. -/
def utf8String : Nat := 0x0c

/-- Text of the restricted printable alphabet. -/
def printableString : Nat := 0x13

/-- Times with a two-digit year. -/
def utcTime : Nat := 0x17

/-- Times with a four-digit year. -/
def generalizedTime : Nat := 0x18

/-- Text in four-byte characters. -/
def universalString : Nat := 0x1c

/-- Text in two-byte characters. -/
def bmpString : Nat := 0x1e

/-- Sequences. -/
def sequence : Nat := 0x30

/-- Sets. -/
def set : Nat := 0x31

/-- A constructed element of the given context number. -/
def explicit (number : Nat) : Nat := 0xa0 + number

/-- A primitive element of the given context number. -/
def context (number : Nat) : Nat := 0x80 + number

end InstanceLink.Der.Tag
