/-!
# The flags of the command

Every flag with its spellings, the name of the value it takes if it takes one, and
what it is for.
-/

namespace InstanceLink.CommandLine

/-- The name of the program. -/
def programName : String := "alloydb-connector"

/-- A flag of the command. -/
inductive Flag where
  | help
  | version
  | instanceName
  | timeout
  | maxWorkers
  | retry
  | json
  | verbose
  deriving DecidableEq, Repr

namespace Flag

/-- All flags, in the order they are listed. -/
def all : List Flag :=
  [.help, .version, .instanceName, .timeout, .maxWorkers, .retry, .json, .verbose]

/-- The spellings of a flag. The first one stands for it in the usage. -/
def spellings : Flag → List String
  | .help => ["-h", "--help"]
  | .version => ["--version"]
  | .instanceName => ["--instance"]
  | .timeout => ["--timeout"]
  | .maxWorkers => ["--max-workers"]
  | .retry => ["--retry"]
  | .json => ["--json"]
  | .verbose => ["--verbose", "-v"]

/-- The name of the value a flag takes. -/
def valueName? : Flag → Option String
  | .instanceName => some "INSTANCE"
  | .timeout => some "TIMEOUT"
  | .maxWorkers => some "MAX_WORKERS"
  | _ => none

/-- Whether a flag takes a value. -/
def takesValue (f : Flag) : Bool := f.valueName?.isSome

/-- What a flag is for. -/
def purpose : Flag → String
  | .help => "show this help message and exit"
  | .version => "show program's version number and exit"
  | .instanceName => "Instance name (default: $ALLOYDB_INSTANCE_NAME)"
  | .timeout => "Seconds to wait for the Admin API (default: 30)"
  | .maxWorkers => "Admin API worker threads (default: $ALLOYDB_MAX_WORKERS or 4)"
  | .retry => "Retry transient failures with backoff"
  | .json => "Output results as JSON"
  | .verbose => "Enable debug logging"

/-- A flag as messages name it. -/
def label (f : Flag) : String := "/".intercalate f.spellings

/-- A spelling with the value it takes. -/
def withValue (f : Flag) (spelling : String) : String :=
  f.valueName?.elim spelling fun name => spelling ++ " " ++ name

/-- A flag in the usage line. -/
def usage (f : Flag) : String := "[" ++ f.withValue (f.spellings.headD "") ++ "]"

/-- A flag with all its spellings, as the help lists it. -/
def listing (f : Flag) : String := ", ".intercalate (f.spellings.map f.withValue)

/-- Every spelling with its flag. -/
def spelled : List (String × Flag) :=
  all.flatMap fun f => f.spellings.map fun spelling => (spelling, f)

/-- A spelling belongs to one flag only. -/
theorem spelled_nodup : (spelled.map Prod.fst).Nodup := by decide

/-- No flag of a single letter takes a value. -/
theorem short_takes_no_value :
    ∀ entry ∈ spelled, entry.1.length = 2 → entry.2.takesValue = false := by decide

end Flag

end InstanceLink.CommandLine
