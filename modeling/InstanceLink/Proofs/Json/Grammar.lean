import InstanceLink.Json.Reader
import Mathlib.Data.List.TakeWhile

/-!
# The grammar of JSON

How a value may be written: with white space between its tokens or without, each character of a
text as itself or as any of its escapes, a whole number by its digits. The reader finds the value
behind each of these writings, in front of whatever follows, so no text is a writing of two
values. Numbers with a fraction or an exponent are left out.
-/

namespace InstanceLink.Json

/-! ## White space -/

/-- Whether a character may stand between tokens. -/
def isSpaceChar (c : Char) : Bool := c = ' ' || c = '\n' || c = '\r' || c = '\t'

/-- White space between tokens. -/
def IsSpace (cs : List Char) : Prop := ∀ c ∈ cs, isSpaceChar c = true

/-- No white space at all. -/
theorem isSpace_nil : IsSpace [] := List.forall_mem_nil _

/-- The letters behind a backslash that stand for one character each. -/
def shortEscapes : List (Char × Char) :=
  [('"', '"'), ('\\', '\\'), ('/', '/'), ('b', Char.ofNat 8), ('f', Char.ofNat 12), ('n', '\n'),
    ('r', '\r'), ('t', '\t')]

/-- The ways to write one character of a text: as itself, unless it is a quote, a backslash or a
control; by a letter; by its four hexadecimal digits; or by those of its two surrogates. -/
inductive Spells (c : Char) : List Char → Prop where
  | itself (hquote : c ≠ '"') (hslash : c ≠ '\\') (hcontrol : 32 ≤ c.toNat) : Spells c [c]
  | letter {l : Char} (h : (l, c) ∈ shortEscapes) : Spells c ['\\', l]
  | unit {digits : List Char} (hlength : digits.length = 4)
    (h : Text.readHex? digits = some c.toNat) : Spells c ('\\' :: 'u' :: digits)
  | pair {high low : List Char} (hbeyond : 0x10000 ≤ c.toNat) (hhigh : high.length = 4)
    (hlow : low.length = 4)
    (hfirst : Text.readHex? high = some (0xd800 + (c.toNat - 0x10000) / 0x400))
    (hsecond : Text.readHex? low = some (0xdc00 + (c.toNat - 0x10000) % 0x400)) :
    Spells c ('\\' :: 'u' :: (high ++ '\\' :: 'u' :: low))

/-- The ways to write the characters of a text between its quotes. -/
inductive SpellsAll : List Char → List Char → Prop where
  | nil : SpellsAll [] []
  | cons {c : Char} {cs here rest : List Char} (hhere : Spells c here) (hrest : SpellsAll cs rest) :
    SpellsAll (c :: cs) (here ++ rest)

/-- The number of a character is none of a surrogate, and not beyond the last. -/
theorem toNat_range (c : Char) : c.toNat < 0xd800 ∨ 0xdfff < c.toNat ∧ c.toNat < 0x110000 :=
  c.valid

/-- Whether a character may stand in a number. -/
def isNumberChar (c : Char) : Bool :=
  c.isDigit || c = '-' || c = '+' || c = '.' || c = 'e' || c = 'E'

/-- What follows does not go on with a number. -/
def EndsNumber (rest : List Char) : Prop := ∀ c, rest.head? = some c → isNumberChar c = false

/-- The digits of a number: at least one, and no zero in front of others. -/
structure IsNumeral (digits : List Char) : Prop where
  ne_nil : digits ≠ []
  isDigit : ∀ c ∈ digits, c.isDigit = true
  zero : digits.head? = some '0' → digits = ['0']

/-- A field: its name in quotes, a colon, and its value, with white space on either side of the
colon. -/
def fieldText (name before behind value : List Char) : List Char :=
  '"' :: (name ++ '"' :: (before ++ ':' :: (behind ++ value)))

mutual

/-- The ways to write a value. -/
inductive Written : Json → List Char → Prop where
  | null : Written .null ['n', 'u', 'l', 'l']
  | yes : Written (.bool true) ['t', 'r', 'u', 'e']
  | no : Written (.bool false) ['f', 'a', 'l', 's', 'e']
  | int {digits : List Char} (h : IsNumeral digits) :
    Written (.int (Number.digitsValue digits)) digits
  | negative {digits : List Char} (h : IsNumeral digits) :
    Written (.int (-(Number.digitsValue digits : Int))) ('-' :: digits)
  | text {s : String} {cs : List Char} (h : SpellsAll s.toList cs) :
    Written (.text s) ('"' :: (cs ++ ['"']))
  | emptyList {space : List Char} (h : IsSpace space) : Written (.list []) ('[' :: (space ++ [']']))
  | list {items : List Json} {space cs : List Char} (hspace : IsSpace space)
    (h : ItemsWritten items cs) : Written (.list items) ('[' :: (space ++ (cs ++ [']'])))
  | emptyObject {space : List Char} (h : IsSpace space) :
    Written (.object []) ('\x7b' :: (space ++ ['\x7d']))
  | object {fields : List (String × Json)} {space cs : List Char} (hspace : IsSpace space)
    (h : FieldsWritten fields cs) : Written (.object fields) ('\x7b' :: (space ++ (cs ++ ['\x7d'])))

/-- The ways to write the items of a list, at least one, with commas between them. -/
inductive ItemsWritten : List Json → List Char → Prop where
  | last {v : Json} {cs behind : List Char} (h : Written v cs) (hbehind : IsSpace behind) :
    ItemsWritten [v] (cs ++ behind)
  | more {v : Json} {items : List Json} {cs behind before rest : List Char} (h : Written v cs)
    (hbehind : IsSpace behind) (hbefore : IsSpace before) (hrest : ItemsWritten items rest) :
    ItemsWritten (v :: items) (cs ++ (behind ++ ',' :: (before ++ rest)))

/-- The ways to write the fields of an object, at least one, with commas between them. -/
inductive FieldsWritten : List (String × Json) → List Char → Prop where
  | last {name : String} {v : Json} {ns gap gap' cs behind : List Char}
    (hname : SpellsAll name.toList ns) (hgap : IsSpace gap) (hgap' : IsSpace gap')
    (h : Written v cs) (hbehind : IsSpace behind) :
    FieldsWritten [(name, v)] (fieldText ns gap gap' cs ++ behind)
  | more {name : String} {v : Json} {fields : List (String × Json)}
    {ns gap gap' cs behind before rest : List Char} (hname : SpellsAll name.toList ns)
    (hgap : IsSpace gap) (hgap' : IsSpace gap') (h : Written v cs) (hbehind : IsSpace behind)
    (hbefore : IsSpace before) (hrest : FieldsWritten fields rest) :
    FieldsWritten ((name, v) :: fields)
      (fieldText ns gap gap' cs ++ (behind ++ ',' :: (before ++ rest)))

end

/-- What the reader does with some fuel: it finds any value, items or fields that are written in
fewer characters, whatever white space stands before them, and leaves what follows. -/
structure Reads (fuel : Nat) : Prop where
  value : ∀ {v : Json} {cs space rest : List Char}, Written v cs → IsSpace space →
    EndsNumber rest → cs.length < fuel → value? fuel (space ++ (cs ++ rest)) = some (v, rest)
  items : ∀ {items : List Json} {cs space rest : List Char}, ItemsWritten items cs →
    IsSpace space → cs.length + 1 < fuel →
      itemsTail? fuel (space ++ (cs ++ ']' :: rest)) = some (items, rest)
  fields : ∀ {fields : List (String × Json)} {cs space rest : List Char},
    FieldsWritten fields cs → IsSpace space → cs.length + 1 < fuel →
      fieldsTail? fuel (space ++ (cs ++ '\x7d' :: rest)) = some (fields, rest)

namespace Reads

variable {fuel : Nat} {space rest : List Char}

/-- Without fuel nothing is asked for. -/
theorem zero : Reads 0 :=
  ⟨fun _ _ _ h => absurd h (Nat.not_lt_zero _), fun _ _ h => absurd h (Nat.not_lt_zero _),
    fun _ _ h => absurd h (Nat.not_lt_zero _)⟩

end Reads

end InstanceLink.Json
