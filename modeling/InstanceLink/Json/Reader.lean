import InstanceLink.Json.Basic
import InstanceLink.Number.Reader
import InstanceLink.Text.Hex

/-!
# Reading JSON

A reader of one value from the front of a text. Each step returns what it read
and the characters left; nesting is bounded by a fuel computed from the length.
-/

namespace InstanceLink.Json

/-- The characters behind any white space. -/
def skipSpace (cs : List Char) : List Char :=
  cs.dropWhile fun c => c = ' ' || c = '\n' || c = '\r' || c = '\t'

/-- Four hexadecimal digits at the front. -/
def unit? : List Char → Option (Nat × List Char)
  | a :: b :: c :: d :: rest => (Text.readHex? [a, b, c, d]).map (·, rest)
  | _ => none

/-- The character of an escape behind its backslash. -/
def escape? : List Char → Option (Char × List Char)
  | 'n' :: rest => some ('\n', rest)
  | 'r' :: rest => some ('\r', rest)
  | 't' :: rest => some ('\t', rest)
  | 'b' :: rest => some (Char.ofNat 8, rest)
  | 'f' :: rest => some (Char.ofNat 12, rest)
  | '"' :: rest => some ('"', rest)
  | '\\' :: rest => some ('\\', rest)
  | '/' :: rest => some ('/', rest)
  | 'u' :: rest => do
    let (high, rest) ← unit? rest
    if 0xd800 ≤ high && high < 0xdc00 then
      match rest with
      | '\\' :: 'u' :: more =>
        let (low, more) ← unit? more
        if 0xdc00 ≤ low && low < 0xe000 then
          return (Char.ofNat (0x10000 + (high - 0xd800) * 0x400 + (low - 0xdc00)), more)
        else none
      | _ => none
    else return (Char.ofNat high, rest)
  | _ => none

/-- The characters of a text value up to its closing quote, newest first in
`read`. -/
def textTail? (fuel : Nat) (read : List Char) (cs : List Char) : Option (String × List Char) :=
  match fuel, cs with
  | _, [] => none
  | 0, _ => none
  | _ + 1, '"' :: rest => some (String.ofList read.reverse, rest)
  | fuel + 1, '\\' :: rest => do
    let (c, rest) ← escape? rest
    textTail? fuel (c :: read) rest
  | fuel + 1, c :: rest => if c.toNat < 32 then none else textTail? fuel (c :: read) rest

/-- A number at the front: whole when it has neither point nor exponent. -/
def number? (cs : List Char) : Option (Json × List Char) :=
  let part := cs.takeWhile fun c =>
    c.isDigit || c = '-' || c = '+' || c = '.' || c = 'e' || c = 'E'
  let rest := cs.drop part.length
  let (negative, body) := Number.splitSign part
  if !body.isEmpty && body.all Char.isDigit then
    let value : Int := Number.digitsValue body
    some (.int (if negative then -value else value), rest)
  else (Number.readDecimal? (String.ofList part)).map (.decimal ·, rest)

mutual

/-- A value at the front. -/
def value? (fuel : Nat) (cs : List Char) : Option (Json × List Char) :=
  match fuel with
  | 0 => none
  | fuel + 1 =>
    match skipSpace cs with
    | 'n' :: 'u' :: 'l' :: 'l' :: rest => some (.null, rest)
    | 't' :: 'r' :: 'u' :: 'e' :: rest => some (.bool true, rest)
    | 'f' :: 'a' :: 'l' :: 's' :: 'e' :: rest => some (.bool false, rest)
    | '"' :: rest => (textTail? (rest.length + 1) [] rest).map fun (s, rest) => (.text s, rest)
    | '[' :: rest =>
      match skipSpace rest with
      | ']' :: rest => some (.list [], rest)
      | rest => (itemsTail? fuel rest).map fun (items, rest) => (.list items, rest)
    | '\x7b' :: rest =>
      match skipSpace rest with
      | '\x7d' :: rest => some (.object [], rest)
      | rest => (fieldsTail? fuel rest).map fun (fields, rest) => (.object fields, rest)
    | rest => number? rest

/-- The items of a list up to its closing bracket. -/
def itemsTail? (fuel : Nat) (cs : List Char) : Option (List Json × List Char) :=
  match fuel with
  | 0 => none
  | fuel + 1 => do
    let (item, rest) ← value? fuel cs
    match skipSpace rest with
    | ',' :: rest =>
      let (items, rest) ← itemsTail? fuel rest
      return (item :: items, rest)
    | ']' :: rest => return ([item], rest)
    | _ => none

/-- The fields of an object up to its closing brace. -/
def fieldsTail? (fuel : Nat) (cs : List Char) : Option (List (String × Json) × List Char) :=
  match fuel with
  | 0 => none
  | fuel + 1 => do
    match skipSpace cs with
    | '"' :: rest =>
      let (name, rest) ← textTail? (rest.length + 1) [] rest
      match skipSpace rest with
      | ':' :: rest =>
        let (value, rest) ← value? fuel rest
        match skipSpace rest with
        | ',' :: rest =>
          let (fields, rest) ← fieldsTail? fuel rest
          return ((name, value) :: fields, rest)
        | '\x7d' :: rest => return ([(name, value)], rest)
        | _ => none
      | _ => none
    | _ => none

end

/-- The value a whole text holds. -/
def read? (s : String) : Option Json :=
  match value? (s.length + 1) s.toList with
  | some (value, rest) => if (skipSpace rest).isEmpty then some value else none
  | none => none

end InstanceLink.Json
