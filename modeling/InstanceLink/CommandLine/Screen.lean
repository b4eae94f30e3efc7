import InstanceLink.CommandLine.Usage
import InstanceLink.Config.Environment
import InstanceLink.Failure.Fault

/-!
# Screens

What a run writes on: two streams, each with a console of its own. The variables of the
environment and the terminals behind the streams decide how many columns a console has and
whether it writes colours; what a text looks like in colours is left to the console.
-/

namespace InstanceLink.CommandLine

/-- A text on a stream. -/
structure Printed where
  /-- What a reader sees of it, colours aside. -/
  shown : String
  /-- What is written for that. -/
  written : String

instance : Coe Printed String := ⟨Printed.written⟩

namespace Printed

/-- A text that is written as it is shown. -/
def plain (text : String) : Printed := ⟨text, text⟩

/-- Nothing is written. -/
def nothing : Printed := plain ""

end Printed

/-- The console of a stream. -/
structure Screen where
  columns : Nat
  /-- How a text that is shown is written in colours, where the console has any. -/
  colours : Option (String → String)

/-- A text on a console. Where nothing is shown, no colour is written. -/
def Screen.print (screen : Screen) (text : String) : Printed :=
  ⟨text, if text.isEmpty then text else screen.colours.elim text fun paint => paint text⟩

/-- A console without colours writes what it shows. -/
theorem Screen.print_of_plain {screen : Screen} (h : screen.colours = none) (text : String) :
    screen.print text = .plain text := by
  simp [print, Printed.plain, h]

/-- The consoles of a run: one for its output, one for its errors. -/
structure Screens where
  output : Screen
  errors : Screen

/-- The streams of a run, each by the columns of the terminal that it is, if it is one. A terminal
that does not know its columns has zero. -/
structure Streams where
  input : Option Nat := none
  output : Option Nat := none
  errors : Option Nat := none

/-- The variable that holds the columns of the screen. -/
def columnsVariable : String := "COLUMNS"

/-- The variable that holds the lines of the screen. -/
def linesVariable : String := "LINES"

/-- The variable that makes a terminal of every stream. -/
def colourVariable : String := "FORCE_COLOR"

/-- The variable that holds the kind of the terminal. -/
def kindVariable : String := "TERM"

/-- Whether a value is made of digits only, of whatever shape. -/
def isDigits (s : String) : Bool := !s.isEmpty && s.toList.all Text.isDigit

/-- The greatest number of characters of a value that a message repeats. -/
def repeatedLength : Nat := 200

/-- The wording for digits that are no number: too many of them at the front, or one of a shape
that numbers are not written with. -/
def sizeMessage (s : String) : String :=
  let run := (s.toList.takeWhile fun c => (Text.decimalValue? c).isSome).length
  if Number.digitLimit < run then
    "Exceeds the limit (" ++ toString Number.digitLimit ++
      " digits) for integer string conversion: value has " ++ toString run ++
      " digits; use sys.set_int_max_str_digits() to increase the limit"
  else
    "invalid literal for int() with base 10: " ++
      String.ofList ((Text.quoted s).toList.take repeatedLength)

/-- The size of the screen that a variable holds. A value that is not made of digits does not
count; one that is must be a number. -/
def screenSize (env : Environment) (name : String) : Except Fault (Option Nat) :=
  match (env.lookup name).filter isDigits with
  | none => .ok none
  | some s =>
    match Number.readInt? s with
    | some n => .ok (some n.toNat)
    | none => .error (.rule (sizeMessage s))

/-- A number of columns that counts only when it is not zero. -/
def knownColumns (columns : Option Nat) : Nat := (columns.filter (0 < ·)).getD standardColumns

/-- The columns of the first stream that is a terminal. -/
def Streams.columns (streams : Streams) : Nat :=
  knownColumns ((streams.input.or streams.output).or streams.errors)

/-- The sign for a kelvin is a capital of the letter k. -/
def kelvinSign : Char := '\u212A'

/-- The kinds of terminals that are written to as if they were none. -/
def dumbKinds : List String := ["dumb", "unknown"]

/-- Whether the environment names such a kind. -/
def isDumb (env : Environment) : Bool :=
  dumbKinds.contains (String.ofList (((env.lookup kindVariable).getD "").toList.map fun c =>
    if c = kelvinSign then 'k' else c.toLower))

/-- The console of a stream, with the sizes that the variables hold. Both of them together count
before all else; a terminal of a dumb kind has the standard columns otherwise, and no colours. -/
def screenOf (env : Environment) (streams : Streams) (paint : String → String)
    (columns lines : Option Nat) (stream : Option Nat) : Screen :=
  let isTerminal := (env.lookup colourVariable).isSome || stream.isSome
  let own := if isTerminal && isDumb env then standardColumns else columns.getD streams.columns
  ⟨if lines.isSome then columns.getD own else own,
    if isTerminal && !isDumb env then some paint else none⟩

/-- The consoles of both streams. -/
def screens (env : Environment) (streams : Streams) (paint : String → String) :
    Except Fault Screens := do
  let columns ← screenSize env columnsVariable
  let lines ← screenSize env linesVariable
  return ⟨screenOf env streams paint columns lines streams.output,
    screenOf env streams paint columns lines streams.errors⟩

/-- The columns for usage and help: the variable if it is a positive whole number, else those of
the terminal that the output is. -/
def usageColumns (env : Environment) (streams : Streams) : Nat :=
  match (env.lookup columnsVariable).bind Number.readInt? with
  | some n => if 0 < n then n.toNat else knownColumns streams.output
  | none => knownColumns streams.output

end InstanceLink.CommandLine
