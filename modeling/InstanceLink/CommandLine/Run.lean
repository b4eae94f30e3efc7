import InstanceLink.CommandLine.Arguments
import InstanceLink.CommandLine.Report
import InstanceLink.CommandLine.Screen
import InstanceLink.Fetch.Retry

/-!
# Running the command

The command reads its arguments over the environment, makes a key, asks for an
executor, fetches one bundle and shows it. A run is the record of all that: how it
ended, what it wrote, and what it asked of the outside. Arguments that are refused and
a screen whose size cannot be read end a run before anything is asked of the outside.
However a fetch ends, the fetcher is closed; unless that fails, the executor is then
stopped and its registry cleared.
-/

namespace InstanceLink.CommandLine

/-- The outside of a run. -/
structure Outside where
  /-- The admin client, or the fault that building it raises. -/
  admin : Except Fault AdminClient
  key : ClientKey
  /-- The version of the installed package, if it can be found. -/
  version? : Option String

/-- How a run ended. -/
inductive Ending where
  /-- With a status, after a fetch. -/
  | returned (status : Nat)
  /-- With a status, while reading arguments. -/
  | exited (status : Nat)
  | raised (fault : Fault)
  /-- A text that was to be shown is no markup. -/
  | unreadable (fault : Console.MarkupFault)
  /-- The fetch is waited for without end. -/
  | waiting

/-- The status that an ending leaves behind. -/
def Ending.status : Ending → Nat
  | .returned status | .exited status => status
  | .raised _ | .unreadable _ | .waiting => 1

/-- What is still to be said about an ending that nothing was shown of. -/
def Ending.notice : Ending → String
  | .raised fault => fault.text ++ "\n"
  | .unreadable fault => fault.message ++ "\n"
  | .returned _ | .exited _ | .waiting => ""

/-- What a run asks of the executor and its registry. -/
inductive ExecutorEvent where
  | asked (workers : Nat)
  | stopped (waits cancelsQueued : Bool)
  | registryCleared
  deriving DecidableEq, Repr

/-- The record of a run. -/
structure Run where
  ending : Ending
  output : Printed
  errors : Printed
  /-- The pauses between attempts, in seconds. -/
  pauses : List Nat
  executor : List ExecutorEvent
  keysMade : Nat
  /-- The level of the package's logger afterwards. -/
  level : Int
  /-- The history of the fetcher. -/
  session : Session

/-- The log records of a run that reach the handlers. -/
def Run.records (r : Run) : List LogRecord := r.session.log.filter (LogRecord.isShown r.level)

/-- What a run finds around it. -/
structure Surroundings where
  streams : Streams := {}
  /-- How consoles write a text in colours. -/
  paint : String → String := id
  /-- The loggers, the package's own among them. -/
  loggers : Loggers := [(Loggers.packageName, ⟨Loggers.defaultLevel, [.plain]⟩)]

namespace Surroundings

variable (around : Surroundings)

/-- What log calls meet before a run has set the package's logger up. -/
def sink : LogSink := around.loggers.sink Loggers.packageName

/-- A run that ends while reading arguments. -/
def early (status : Nat) (output errors : String) : Run :=
  ⟨.exited status, .plain output, .plain errors, [], [], 0,
    (around.loggers.find Loggers.packageName).level, .fresh around.sink⟩

/-- What log calls meet once the package's logger is set up with a level. -/
def sinkAt (level : Int) : LogSink :=
  match around.loggers.setUp Loggers.packageName (.number level) with
  | .ok loggers => loggers.sink Loggers.packageName
  | .error _ => around.sink

/-- A run that ends for want of a console, with the package's logger already set up. -/
def unscreened (level : Int) (fault : Fault) : Run :=
  ⟨.raised fault, .nothing, .nothing, [], [], 0, level, .fresh (around.sinkAt level)⟩

end Surroundings

/-- What is written about refused arguments. -/
def refusalText (columns : Nat) (message : String) : String :=
  usageText (usageWidth columns) ++ "\n" ++ programName ++ ": error: " ++ message ++ "\n"

/-- What is written about the version. -/
def versionText (version? : Option String) : String :=
  programName ++ " v" ++ version?.getD "unknown" ++ "\n"

/-- The wording when no instance is named. -/
def instanceRequired : String := "--instance is required when ALLOYDB_INSTANCE_NAME is not set"

/-- The environment with the settings over it. An empty instance is no setting. -/
def Settings.over (s : Settings) (env : Environment) : Environment :=
  let env :=
    match s.instanceText with
    | some name => if name.isEmpty then env else env.set Environment.instanceVariable name
    | none => env
  match s.maxWorkers with
  | some n => env.set Environment.workersVariable (toString n)
  | none => env

/-- The configuration of a run, or the wording of its refusal. -/
def Settings.configure (s : Settings) (env : Environment) : Except String Config :=
  let env := s.over env
  match env.nonEmpty? Environment.instanceVariable with
  | none => .error instanceRequired
  | some _ => (Config.ofEnvironment env).mapError ConfigRefusal.message

/-- The one fetch of a run, with retries when they are asked for. -/
def fetchOnce (s : Settings) (x : Fetcher) (name : InstanceName) (key : ClientKey) : Retried :=
  if s.retry then x.fetchWithRetry name key (.decimal s.timeout)
  else
    let (x, waited) := x.fetchAndWait name key (.decimal s.timeout)
    ⟨x, [], waited⟩

/-- The executor stops: it accepts nothing more, and what is queued is cancelled. -/
def stopExecutor (x : Fetcher) : Fetcher :=
  x.callOrder.foldl (fun x (fetch, side) => (x.cancelCall fetch side).1) (x.take [.shutDown])

/-- What a run shows in the end: its ending, output and errors. -/
abbrev Shown := Ending × Printed × Printed

/-- An ending that writes nothing. -/
def silent (ending : Ending) : Shown := (ending, .nothing, .nothing)

/-- The ending that a fault of showing causes. -/
def ShowFault.ending : ShowFault → Ending
  | .summary fault => .raised fault
  | .markup fault => .unreadable fault

/-- What is shown of a failed fetch, before anything is cleaned up. -/
def showFailure (screen : Screen) : Fault → Shown
  | .connector error =>
    match error.textFault? with
    | some fault => silent (.raised fault)
    | none =>
      match failureText screen.columns error with
      | .ok text => (.returned 1, .nothing, screen.print text)
      | .error fault => silent fault.ending
  | fault => silent (.raised fault)

/-- What is shown of a bundle, after everything is cleaned up. -/
def showBundle (s : Settings) (screen : Screen) (name : InstanceName) (info : ConnectionInfo) :
    Shown :=
  match if s.json then jsonText screen.columns info else tableText screen.columns name info with
  | .ok text => (.returned 0, screen.print text, .nothing)
  | .error fault => silent fault.ending

/-- The level of the package's logger during a run. -/
def Settings.level (s : Settings) : Int :=
  if s.verbose then LogLevel.debug.number else Loggers.defaultLevel

/-- What is to be done once the arguments are read. -/
structure Plan where
  settings : Settings
  config : Config
  screens : Screens
  /-- What log calls meet. -/
  sink : LogSink

namespace Plan

/-- What is shown of the outcome of a fetch. -/
def showOutcome (p : Plan) : Except Fault ConnectionInfo → Shown
  | .ok info => showBundle p.settings p.screens.output p.config.instanceName info
  | .error fault => showFailure p.screens.errors fault

/-- The errors that are written before cleaning up. -/
def failureErrors (p : Plan) : Except Fault ConnectionInfo → Printed
  | .ok _ => .nothing
  | .error fault => (showFailure p.screens.errors fault).2.2

/-- The fetcher of a planned run. -/
def fetcher (p : Plan) (client : AdminClient) : Fetcher :=
  .fresh (.pool p.config.maxWorkers) client p.sink

/-- A planned run. -/
def run (p : Plan) (outside : Outside) : Run :=
  let asked := ExecutorEvent.asked p.config.maxWorkers
  let level := p.settings.level
  match outside.admin with
  | .error fault =>
    ⟨.raised fault, .nothing, .nothing, [], [asked], 1, level, .fresh p.sink⟩
  | .ok client =>
    let fetched := fetchOnce p.settings (p.fetcher client) p.config.instanceName outside.key
    match fetched.waited with
    | none =>
      ⟨.waiting, .nothing, .nothing, fetched.pauses, [asked], 1, level, fetched.fetcher.session⟩
    | some outcome =>
      match fetched.fetcher.close with
      | (x, some fault) =>
        ⟨.raised fault, .nothing, p.failureErrors outcome, fetched.pauses, [asked], 1, level,
          x.session⟩
      | (x, none) =>
        let (ending, output, errors) := p.showOutcome outcome
        ⟨ending, output, errors, fetched.pauses, [asked, .stopped false true, .registryCleared], 1,
          level, (stopExecutor x).session⟩

end Plan

/-- The plan that arguments make over the environment, or the run that ends there. -/
def plan (arguments : List String) (env : Environment) (version? : Option String)
    (around : Surroundings := {}) : Except Run Plan :=
  let columns := usageColumns env around.streams
  match readArguments arguments with
  | .error .help => .error (around.early 0 (helpText (usageWidth columns)) "")
  | .error .version => .error (around.early 0 (versionText version?) "")
  | .error (.refused fault) => .error (around.early 2 "" (refusalText columns fault.message))
  | .ok s =>
    match s.configure env with
    | .error message => .error (around.early 2 "" (refusalText columns message))
    | .ok config =>
      match screens env around.streams around.paint with
      | .error fault => .error (around.unscreened s.level fault)
      | .ok consoles => .ok ⟨s, config, consoles, around.sinkAt s.level⟩

/-- A run of the command. -/
def run (arguments : List String) (env : Environment) (outside : Outside)
    (around : Surroundings := {}) : Run :=
  match plan arguments env outside.version? around with
  | .error early => early
  | .ok p => p.run outside

end InstanceLink.CommandLine
