import InstanceLink.Field.Report
import InstanceLink.Number.Reader

/-!
# Whole numbers in field texts

The rule by which the text of a field is read as a whole number. A text in plain
form, a sign and digits without leading zeros, is read as it stands, and a run of
more than 4300 digits in it is refused for its size. Any other text is brought
into plain form first: white space around it, one sign, leading zeros, single
underscores between digits and a fraction of zeros are allowed.
-/

namespace InstanceLink.WholeNumber

/-- White space around a number text: every blank but the four separators. -/
def isSpace (c : Char) : Bool := Text.isPlainBlank c

/-- A text in plain form: a sign and digits without leading zeros, to the end. The
digits are counted before what follows them is looked at. -/
def readPlain (cs : List Char) : Except FieldFault Int :=
  let (negative, body) :=
    match cs with
    | '-' :: rest => (true, rest)
    | cs => (false, cs)
  let run := body.takeWhile Char.isDigit
  if run.isEmpty then .error .unreadableInt
  else if run.head? = some '0' && 1 < run.length then .error .unreadableInt
  else if Number.digitLimit < run.length then .error .oversizedInt
  else if run.length < body.length then .error .unreadableInt
  else
    let value : Int := Number.digitsValue run
    .ok (if negative then -value else value)

/-- The sign of a text, as it is put back in front, and the text behind it. A plus
sign is not put back, and no minus sign may follow it. -/
def splitSign? : List Char → Option (List Char × List Char)
  | '+' :: '-' :: _ => none
  | '+' :: rest => some ([], rest)
  | '-' :: rest => some (['-'], rest)
  | cs => some ([], cs)

/-- The characters behind leading zeros and the underscores among them. `last` is
the latest character passed, kept when nothing but a fraction or the end follows. -/
def dropZeros? (last : Char) : List Char → Option (List Char)
  | [] => some [last]
  | c :: rest =>
    if c = '0' || c = '_' then dropZeros? c rest
    else if c.isDigit || c = '-' then some (c :: rest)
    else if c = '.' then some (last :: c :: rest)
    else none

/-- Leading zeros dropped; the text must start with a digit or a minus sign. -/
def trimZeros? : List Char → Option (List Char)
  | [] => none
  | c :: rest =>
    if c = '0' then dropZeros? c rest
    else if c.isDigit || c = '-' then some (c :: rest)
    else none

/-- A fraction of zeros dropped. -/
def trimFraction (cs : List Char) : List Char :=
  let whole := cs.takeWhile (· != '.')
  match cs.drop whole.length with
  | _ :: zeros => if !zeros.isEmpty && zeros.all (· == '0') then whole else cs
  | [] => cs

/-- Whether two underscores follow each other. -/
def hasDouble : List Char → Bool
  | '_' :: '_' :: _ => true
  | _ :: rest => hasDouble rest
  | [] => false

/-- Underscores dropped when each stands alone inside the text. -/
def trimUnderscores (cs : List Char) : List Char :=
  if cs.head? = some '_' || cs.getLast? = some '_' || hasDouble cs then cs
  else cs.filter (· != '_')

/-- The plain form of a text, when its sign and leading zeros allow one. -/
def plainForm? (cs : List Char) : Option (List Char) := do
  let (sign, body) ← splitSign? (Text.trimBy isSpace cs)
  let digits ← trimZeros? body
  return sign ++ trimUnderscores (trimFraction digits)

/-- The whole number of a text. Only a text that is in plain form as it stands is
refused for its size. -/
def read (s : String) : Except FieldFault Int :=
  match readPlain s.toList with
  | .ok value => .ok value
  | .error .oversizedInt => .error .oversizedInt
  | .error _ =>
    match (plainForm? s.toList).map readPlain with
    | some (.ok value) => .ok value
    | _ => .error .unreadableInt

end InstanceLink.WholeNumber
