import ProxyForge.CommandLine.Report
import ProxyForge.Config.Discovery
import ProxyForge.Log.Logger

/-!
# ProxyForge.CommandLine.Run — one run of the program

A run reads the arguments, then the configuration, then renders the text of the
command, and at last prints it or writes it to a file. Each of these can fail,
and then nothing is printed or written: bad arguments end the run with exit
code 2, everything else with 1.

`execute` is a run without its log; it tells what happened, and `run` writes the
log of that.
-/

namespace ProxyForge.CommandLine

/-- How a run ended: its exit code, what it printed, and what happened on the way. -/
structure Ending where
  exit : Nat
  stdout : String := ""
  stderr : String := ""
  events : List Event := []
deriving DecidableEq, Repr

variable {m : Type → Type} [Monad m] [FileAccess m]

/-- The configuration of a run: the given file, or the one that applies in the
working directory, with what the environment overrides. -/
def loadConfig (o : Options) (env : Environment) : m (Except ConfigError Config) := do
  let found ←
    match o.config with
    | some file => Config.load file
    | none => do Config.discover (← FileAccess.workingDir)
  return found.map (·.applyEnv env)

/-- The directory that the log names as the place of the configuration. -/
def configDir (o : Options) : Path := (o.config.bind Path.parent?).getD ⟨"."⟩

/-- What a successful command has to report to the log. -/
def commandEvents (r : Registry) : Command → List Event
  | .check => [.registryValid r.exportedSymbols.length]
  | _ => []

/-- What a failed command has to report to the log. -/
def failureEvents : ReportError → List Event
  | .unknownPrimitive e => [.lookupFailed e.message]
  | .invalidRegistry e => [.registryInvalid e.message]
  | .noDefinition => []

/-- Prints a text or writes it to a file, after the given events. -/
def deliver (r : Registry) (out : Option Path) (text : String) (events : List Event) :
    m Ending :=
  match out with
  | none => return { exit := 0, stdout := text, events }
  | some file => do
    match ← FileAccess.write file text with
    | .error e => return { exit := 1, stderr := "Error: " ++ e.details ++ "\n", events }
    | .ok () =>
      return { exit := 0, events := events ++ [.artifactWritten file.text r.length] }

/-- A run with accepted arguments. -/
def executeOptions (r : Registry) (o : Options) (env : Environment) : m Ending := do
  let events : List Event := [.commandStarted o.command.text]
  match ← loadConfig o env with
  | .error e =>
    return { exit := 1, stderr := "Error: " ++ e.message ++ "\n",
             events := events ++ [.configFailed e.message] }
  | .ok config =>
    let events := events ++ [.configResolved (configDir o).text config.runtime.library]
    match o.command.report r config o.json with
    | .error e =>
      return { exit := 1, stderr := "Error: " ++ e.message ++ "\n",
               events := events ++ failureEvents e }
    | .ok text => deliver r o.out text (events ++ commandEvents r o.command)

/-- A run of the program with the given name and arguments, without its log. -/
def execute (program : String) (args : List String) (env : Environment) : m Ending :=
  match Options.parse args with
  | .error e => return { exit := 2, stderr := e.message program ++ "\n" }
  | .ok o => executeOptions Registry.builtin o env

/-- A run of the program, with its log. A log file is made before anything else, and
without it there is no run. -/
def run (program : String) (args : List String) (env : Environment) : m Ending := do
  let logger := Logger.ofSettings (.ofEnv env) env
  match ← logger.start with
  | .error e =>
    return { exit := 101, stderr := "initializing log file failed: " ++ e.message ++ "\n" }
  | .ok () =>
    let ending ← execute program args env
    let logged ← logger.write ending.events
    return { ending with stderr := logged ++ ending.stderr }

end ProxyForge.CommandLine
