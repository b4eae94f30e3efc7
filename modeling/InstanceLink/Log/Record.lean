/-!
# Log records

Levels by their number, and records of a level with a message. A record is shown
when its level is not below the level that is set.
-/

namespace InstanceLink

/-- The levels at which records are written. -/
inductive LogLevel where
  | debug
  | info
  | warning
  | error
  | critical
  deriving DecidableEq, Repr

namespace LogLevel

/-- The number of a level. -/
def number : LogLevel → Int
  | .debug => 10
  | .info => 20
  | .warning => 30
  | .error => 40
  | .critical => 50

/-- The written name of a level. -/
def name : LogLevel → String
  | .debug => "DEBUG"
  | .info => "INFO"
  | .warning => "WARNING"
  | .error => "ERROR"
  | .critical => "CRITICAL"

/-- Every level, from the least severe. -/
def all : List LogLevel := [.debug, .info, .warning, .error, .critical]

/-- Levels with smaller numbers come first. -/
theorem all_ascending : all.map number = [10, 20, 30, 40, 50] := rfl

end LogLevel

/-- A log record. -/
structure LogRecord where
  level : LogLevel
  message : String
  deriving DecidableEq, Repr

/-- Whether a record is shown at a threshold. -/
def LogRecord.isShown (threshold : Int) (r : LogRecord) : Bool := threshold ≤ r.level.number

end InstanceLink
