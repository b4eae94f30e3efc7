import InstanceLink.Json.Basic
import InstanceLink.Number.Shortest
import InstanceLink.Text.Hex

/-!
# Printing JSON

Two layouts of one value: a single line in plain ASCII, and the indented form in
which every character that needs no escape is kept.
-/

namespace InstanceLink.Json

/-- The escape of a character by its 16-bit units. -/
def unitEscape (n : Nat) : List Char :=
  let one := fun unit => '\\' :: 'u' :: Text.hexPadded 4 unit
  if n < 0x10000 then one n
  else one (0xd800 + (n - 0x10000) / 0x400) ++ one (0xdc00 + (n - 0x10000) % 0x400)

/-- One character of a text value: quotes, backslashes and controls are escaped,
and of the rest whatever is not kept. -/
def textChar (keep : Char → Bool) (c : Char) : List Char :=
  if c = '"' then ['\\', '"']
  else if c = '\\' then ['\\', '\\']
  else if c = '\n' then ['\\', 'n']
  else if c = '\r' then ['\\', 'r']
  else if c = '\t' then ['\\', 't']
  else if c.toNat = 8 then ['\\', 'b']
  else if c.toNat = 12 then ['\\', 'f']
  else if c.toNat < 32 || !keep c then unitEscape c.toNat
  else [c]

/-- A text value between its quotes. -/
def textChars (keep : Char → Bool) (s : String) : List Char :=
  '"' :: s.toList.flatMap (textChar keep) ++ ['"']

/-- A whole number's digits behind its sign. -/
def intChars (i : Int) : List Char :=
  if i < 0 then '-' :: Nat.toDigits 10 i.natAbs else Nat.toDigits 10 i.natAbs

/-- A decimal number; an infinity and the value that is no number by name. -/
def decimalChars : Binary64 → List Char
  | .nan => "NaN".toList
  | .infinite negative => (if negative then "-Infinity" else "Infinity").toList
  | value => value.text.toList

/-- Plain ASCII characters that stand for themselves on the single line. -/
def keepPlain (c : Char) : Bool := c.toNat < 127

mutual

/-- The single-line form. -/
def lineChars : Json → List Char
  | .null => "null".toList
  | .bool value => (if value then "true" else "false").toList
  | .int value => intChars value
  | .decimal value => decimalChars value
  | .text value => textChars keepPlain value
  | .list items => '[' :: lineItems items ++ [']']
  | .object fields => '\x7b' :: lineFields fields ++ ['\x7d']

/-- Items with commas between them. -/
def lineItems : List Json → List Char
  | [] => []
  | [item] => lineChars item
  | item :: rest => lineChars item ++ ',' :: lineItems rest

/-- Fields with commas between them. -/
def lineFields : List (String × Json) → List Char
  | [] => []
  | [(name, value)] => textChars keepPlain name ++ ':' :: lineChars value
  | (name, value) :: rest =>
    textChars keepPlain name ++ ':' :: lineChars value ++ ',' :: lineFields rest

end

/-- A value on a single line of ASCII. -/
def line (value : Json) : String := String.ofList (lineChars value)

/-- A line break and two spaces for each level. -/
def breakLine (level : Nat) : List Char := '\n' :: List.replicate (2 * level) ' '

mutual

/-- The indented form at a level. -/
def indentedChars (level : Nat) : Json → List Char
  | .null => "null".toList
  | .bool value => (if value then "true" else "false").toList
  | .int value => intChars value
  | .decimal value => decimalChars value
  | .text value => textChars (fun _ => true) value
  | .list [] => ['[', ']']
  | .list items => '[' :: indentedItems (level + 1) items ++ breakLine level ++ [']']
  | .object [] => ['\x7b', '\x7d']
  | .object fields =>
    '\x7b' :: indentedFields (level + 1) fields ++ breakLine level ++ ['\x7d']

/-- Items on lines of their own. -/
def indentedItems (level : Nat) : List Json → List Char
  | [] => []
  | [item] => breakLine level ++ indentedChars level item
  | item :: rest =>
    breakLine level ++ indentedChars level item ++ ',' :: indentedItems level rest

/-- Fields on lines of their own. -/
def indentedFields (level : Nat) : List (String × Json) → List Char
  | [] => []
  | [(name, value)] =>
    breakLine level ++ textChars (fun _ => true) name ++ ':' :: ' ' :: indentedChars level value
  | (name, value) :: rest =>
    breakLine level ++ textChars (fun _ => true) name ++ ':' :: ' ' ::
      indentedChars level value ++ ',' :: indentedFields level rest

end

/-- A value indented by two spaces a level, all text kept as it is. -/
def indented (value : Json) : String := String.ofList (indentedChars 0 value)

end InstanceLink.Json
