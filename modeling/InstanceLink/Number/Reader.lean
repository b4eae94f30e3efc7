import InstanceLink.Number.Binary64
import InstanceLink.Text.Blank
import InstanceLink.Text.DecimalDigit

/-!
# Reading numbers

Whole and decimal numbers as an option's text gives them: blanks around, a sign,
digits of any script, and single underscores between digits. Decimal numbers may
have a fraction and an exponent, or be an infinity or no number by name.
-/

namespace InstanceLink.Number

/-- The longest run of digits a whole number may be written with. -/
def digitLimit : Nat := 4300

/-- A number text without the blanks around it, every digit in its plain form and
every other character unchanged. -/
def plainDigits (s : String) : List Char :=
  (Text.trimBy Text.isPlainBlank s.toList).map fun c =>
    match Text.decimalValue? c with
    | some v => Char.ofNat (48 + v)
    | none => c

/-- Split off a sign; true for the minus sign. -/
def splitSign : List Char → Bool × List Char
  | '-' :: rest => (true, rest)
  | '+' :: rest => (false, rest)
  | rest => (false, rest)

/-- The digits at the front with single underscores between them taken out, and
what follows the last digit. -/
def digitRun : List Char → List Char × List Char
  | c :: '_' :: d :: rest =>
    if c.isDigit && d.isDigit then
      let (run, tail) := digitRun (d :: rest)
      (c :: run, tail)
    else if c.isDigit then ([c], '_' :: d :: rest)
    else ([], c :: '_' :: d :: rest)
  | c :: rest =>
    if c.isDigit then
      let (run, tail) := digitRun rest
      (c :: run, tail)
    else ([], c :: rest)
  | [] => ([], [])

/-- The value of plain digits. -/
def digitsValue (cs : List Char) : Nat :=
  cs.foldl (fun acc c => 10 * acc + (c.toNat - 48)) 0

/-- A whole number's text. -/
def readInt? (s : String) : Option Int :=
  let (negative, body) := splitSign (plainDigits s)
  match digitRun body with
  | (run, []) =>
    if run.isEmpty || digitLimit < run.length then none
    else
      let value : Int := digitsValue run
      some (if negative then -value else value)
  | _ => none

/-- An exponent behind its letter: a sign and at least one digit, to the end. -/
def readExponent? : List Char → Option Int
  | [] => some 0
  | c :: rest =>
    if c = 'e' || c = 'E' then
      let (negative, body) := splitSign rest
      match digitRun body with
      | (run, []) =>
        if run.isEmpty then none
        else
          let value : Int := digitsValue run
          some (if negative then -value else value)
      | _ => none
    else none

/-- A decimal number's text. -/
def readDecimal? (s : String) : Option Binary64 :=
  let (negative, body) := splitSign (plainDigits s)
  let lower := String.ofList (body.map Char.toLower)
  if lower = "inf" || lower = "infinity" then some (.infinite negative)
  else if lower = "nan" then some .nan
  else
    let (whole, rest) := digitRun body
    let (fraction, rest) :=
      match rest with
      | '.' :: rest => digitRun rest
      | rest => ([], rest)
    if whole.isEmpty && fraction.isEmpty then none
    else
      (readExponent? rest).map fun exponent =>
        Binary64.ofDecimal negative (digitsValue (whole ++ fraction))
          (exponent - fraction.length)

end InstanceLink.Number
