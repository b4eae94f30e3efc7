import InstanceLink.Base64.Reader
import InstanceLink.Text.Utf8

/-!
# Text sections

A text file of certificates or keys is a row of sections: a begin line with a
label, optional headers before a blank line, a base64 body, and an end line with
the same label. Anything before a section and after the last is ignored, but one
broken section spoils the whole text.
-/

namespace InstanceLink

/-- A section's label and the bytes of its body. -/
structure TextSection where
  label : String
  content : List UInt8
  deriving DecidableEq, Repr

namespace TextSection

/-- The bytes of a plain ASCII text. -/
def plainBytes (s : String) : List UInt8 := s.toList.map fun c => UInt8.ofNat c.toNat

/-- The search for a mark: `left` is what is still to come of it, `passed` the bytes
passed so far, the last one first. Where the mark breaks off, the search for it starts
again behind the byte that broke it. -/
def seek? (mark left passed : List UInt8) (bytes : List UInt8) :
    Option (List UInt8 × List UInt8) :=
  match left, bytes with
  | [], bytes => some ((passed.drop mark.length).reverse, bytes)
  | _ :: _, [] => none
  | next :: left, b :: rest =>
    if b = next then seek? mark left (b :: passed) rest else seek? mark mark (b :: passed) rest

/-- Split at a mark: what stands before it and what follows it. -/
def splitAt? (mark bytes : List UInt8) : Option (List UInt8 × List UInt8) :=
  seek? mark mark [] bytes

/-- The bytes behind spaces, tabulations and line marks. -/
def skipBlank (bytes : List UInt8) : List UInt8 :=
  bytes.dropWhile fun b => b = 0x20 || b = 0x09 || b = 0x0a || b = 0x0d

/-- A section's parts before they are checked. -/
structure Frame where
  /-- The label of the begin line. -/
  first : List UInt8
  /-- What stands between the two lines. -/
  body : List UInt8
  /-- The label of the end line. -/
  last : List UInt8

/-- The first section and the bytes behind it. -/
def frame? (bytes : List UInt8) : Option (Frame × List UInt8) := do
  let (_, rest) ← splitAt? (plainBytes "-----BEGIN ") bytes
  let (first, rest) ← splitAt? (plainBytes "-----") rest
  let (body, rest) ← splitAt? (plainBytes "-----END ") (skipBlank rest)
  let (last, rest) ← splitAt? (plainBytes "-----") rest
  return (⟨first, body, last⟩, skipBlank rest)

/-- All sections up to the first place where none follows. -/
def frames (fuel : Nat) (bytes : List UInt8) : List Frame :=
  match fuel with
  | 0 => []
  | fuel + 1 =>
    match frame? bytes with
    | some (frame, rest) => frame :: frames fuel rest
    | none => []

/-- Headers and data of a body, parted by the first blank line. -/
def splitHeaders (body : List UInt8) : List UInt8 × List UInt8 :=
  match splitAt? [0x0a, 0x0a] body with
  | some parts => parts
  | none => (splitAt? [0x0d, 0x0a, 0x0d, 0x0a] body).getD ([], body)

/-- Whether a character is white space inside a body. -/
def isBodySpace (c : Char) : Bool :=
  let n := c.toNat
  (9 ≤ n && n ≤ 13) || n == 32 || n == 0x85 || n == 0xa0 || n == 0x1680 ||
    (0x2000 ≤ n && n ≤ 0x200a) || n == 0x2028 || n == 0x2029 || n == 0x202f ||
    n == 0x205f || n == 0x3000

/-- The lines of some characters; a final line end opens no further line. -/
def lines (cs : List Char) : List (List Char) :=
  let rows := cs.splitOn '\n'
  if rows.getLast? = some [] then rows.dropLast else rows

/-- The bytes of a base64 body in its canonical form. -/
def decodeCanonical? (cs : List Char) : Option (List UInt8) :=
  match Base64.decode cs with
  | .ok bytes => if Base64.encode bytes = cs then some bytes else none
  | .error _ => none

/-- A section whose labels agree, whose headers have names and whose body is
base64. -/
def ofFrame? (frame : Frame) : Option TextSection := do
  let first ← Text.decodeUtf8? frame.first
  let last ← Text.decodeUtf8? frame.last
  if first.isEmpty || first != last then none
  let (headers, data) := splitHeaders frame.body
  let data ← Text.decodeUtf8? data
  let content ← decodeCanonical? (data.filter fun c => !isBodySpace c)
  let headers ← Text.decodeUtf8? headers
  if (lines headers).all fun line => line.contains ':' then
    return ⟨String.ofList first, content⟩
  else none

/-- All sections of a text, or nothing when one of them is broken. -/
def read? (bytes : List UInt8) : Option (List TextSection) :=
  (frames bytes.length bytes).mapM ofFrame?

/-- Characters of a body in lines of 64. -/
def bodyLines (fuel : Nat) (cs : List Char) : List Char :=
  match fuel, cs with
  | _, [] => []
  | 0, cs => cs
  | fuel + 1, cs => cs.take 64 ++ '\n' :: bodyLines fuel (cs.drop 64)

/-- The text of a section. -/
def text (s : TextSection) : String :=
  let body := Base64.encode s.content
  "-----BEGIN " ++ s.label ++ "-----\n" ++ String.ofList (bodyLines body.length body) ++
    "-----END " ++ s.label ++ "-----\n"

end TextSection

end InstanceLink
