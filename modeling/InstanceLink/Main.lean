import InstanceLink.CommandLine.Recording

/-!
# The command

Reads the arguments and the environment, and the exchange with the Admin API from
standard input once the arguments ask for a fetch; writes what the run shows.
-/

namespace InstanceLink.CommandLine

/-- The version of this package. -/
def packageVersion : String := "0.1.0"

/-- The variables that a run looks at. -/
def variablesRead : List String :=
  [columnsVariable, linesVariable, colourVariable, kindVariable, Environment.instanceVariable,
    Environment.userVariable, Environment.authVariable, Environment.workersVariable]

/-- What the command finds around it: the package's logger has a console that reads markup. -/
def commandSurroundings : Surroundings :=
  { loggers := [(Loggers.packageName, ⟨Loggers.defaultLevel, [Loggers.consoleHandler]⟩)] }

/-- The variables of the process that a run looks at. -/
def processEnvironment : IO Environment :=
  variablesRead.filterMapM fun name => return (← IO.getEnv name).map (name, ·)

/-- Writes what a run shows and gives its status. -/
def finish (r : Run) : IO UInt32 := do
  IO.print r.output.written
  for record in r.records do
    IO.eprintln (record.level.name ++ " " ++ record.message)
  IO.eprint (r.errors.written ++ r.ending.notice)
  return r.ending.status.toUInt32

end InstanceLink.CommandLine

open InstanceLink.CommandLine

/-- The command. -/
def main (arguments : List String) : IO UInt32 := do
  match plan arguments (← processEnvironment) (some packageVersion) commandSurroundings with
  | .error early => finish early
  | .ok p =>
    let recorded ← (← IO.getStdin).readToEnd
    finish (p.run (Recording.read recorded (some packageVersion)))
