import InstanceLink.Field.Value
import InstanceLink.Log.Record

/-!
# Loggers

Loggers are named by dotted paths and inherit their level from the nearest
ancestor that has one. Setting a logger up gives it a level, and a console handler
when it has no handler yet.
-/

namespace InstanceLink

/-- A handler of a logger. -/
inductive LogHandler where
  | plain
  /-- A console handler: its format, whether it reads markup, and whether it draws
  traces. -/
  | console (format : String) (markup : Bool) (traces : Bool)
  deriving DecidableEq, Repr

/-- The state of one logger; level zero means that it inherits. -/
structure Logger where
  level : Int
  handlers : List LogHandler
  deriving DecidableEq, Repr

/-- A level as it is asked for. -/
inductive LevelRequest where
  | number (level : Int)
  | name (name : String)
  /-- A value that can be no level. -/
  | other (value : FieldValue)

/-- Why a level is refused. -/
inductive LevelRefusal where
  /-- No level has the name. -/
  | unknown (name : String)
  /-- The value is neither a number nor a name. -/
  | notLevel (value : FieldValue)

/-- The wording of a refusal. -/
def LevelRefusal.message : LevelRefusal → String
  | .unknown name => "Unknown level: " ++ Text.quoted name
  | .notLevel value => "Level not an integer or a valid string: " ++ value.literal

/-- All loggers that were touched. -/
abbrev Loggers := List (String × Logger)

namespace Loggers

/-- The package's own logger. -/
def packageName : String := "alloydb_connector"

/-- The level of a logger when none is asked for. -/
def defaultLevel : Int := LogLevel.error.number

/-- The level of the root of all loggers. -/
def rootLevel : Int := LogLevel.warning.number

/-- A logger that has not been touched. -/
def untouched : Logger := ⟨0, []⟩

/-- The logger of a name. -/
def find (ls : Loggers) (name : String) : Logger := (ls.lookup name).getD untouched

/-- Replace the logger of a name. -/
def put (ls : Loggers) (name : String) (l : Logger) : Loggers :=
  (name, l) :: ls.filter fun entry => entry.1 != name

/-- The logger that was put is found. -/
theorem find_put (ls : Loggers) (name : String) (l : Logger) :
    (ls.put name l).find name = l := by
  simp [find, put]

/-- The handler a logger gets when it has none. -/
def consoleHandler : LogHandler := .console "%(message)s" true true

/-- The levels by name. -/
def levelNames : List (String × Int) :=
  [("CRITICAL", 50), ("FATAL", 50), ("ERROR", 40), ("WARN", 30), ("WARNING", 30),
    ("INFO", 20), ("DEBUG", 10), ("NOTSET", 0)]

/-- The number of a level that is asked for. -/
def levelOf : LevelRequest → Except LevelRefusal Int
  | .number level => .ok level
  | .name name =>
    match levelNames.lookup name with
    | some level => .ok level
    | none => .error (.unknown name)
  | .other value => .error (.notLevel value)

/-- Set a logger up. The level is checked before anything changes. -/
def setUp (ls : Loggers) (name : String) (request : LevelRequest) : Except LevelRefusal Loggers :=
  (levelOf request).map fun level =>
    let l := ls.find name
    let handlers := if l.handlers.isEmpty then [consoleHandler] else l.handlers
    ls.put name ⟨level, handlers⟩

/-- Give a logger further plain handlers. -/
def addPlain (ls : Loggers) (name : String) (count : Nat) : Loggers :=
  let l := ls.find name
  ls.put name { l with handlers := l.handlers ++ List.replicate count .plain }

/-- The name of the parent, if there is one. -/
def parent? (cs : List Char) : Option (List Char) :=
  match (cs.reverse.dropWhile (· != '.')) with
  | [] => none
  | _ :: rest => some rest.reverse

/-- The level in force for a logger: the nearest one up its path, or the root's. -/
def effectiveLevel (ls : Loggers) (fuel : Nat) (cs : List Char) : Int :=
  let own := (ls.find (String.ofList cs)).level
  if own != 0 then own
  else
    match fuel, parent? cs with
    | fuel + 1, some up => effectiveLevel ls fuel up
    | _, _ => rootLevel

/-- The levels at which a logger writes. -/
def enabled (ls : Loggers) (name : String) : List LogLevel :=
  let threshold := effectiveLevel ls name.length name.toList
  LogLevel.all.filter fun level => threshold ≤ level.number

end Loggers

end InstanceLink
