import ProxyForge.Files.Access
import ProxyForge.Log.Filter
import ProxyForge.Log.Line

/-!
# ProxyForge.Log.Logger — where entries go

A `Logger` filters entries, writes them as lines and sends these to a file or to
standard error. A process installs at most one logger: `LogState.install` does
nothing once there is one. What happens before is not logged.
-/

namespace ProxyForge

/-- A log in use. -/
structure Logger where
  filter : LogFilter
  /-- The file that lines are appended to; without one they go to standard error. -/
  file : Option Path
  json : Bool
deriving DecidableEq, Repr

namespace Logger

/-- The name of a log file whose path ends in no name. -/
def defaultFileName : String := "guile-shim.log"

/-- The file that a log path stands for: a path that ends in no name is a directory
for a file of the default name. -/
def logFile (p : Path) : Path :=
  let dir := (p.parent?.filter (·.text ≠ "")).getD ⟨"."⟩
  dir.join ⟨p.fileName?.getD defaultFileName⟩

/-- The log that settings ask for in an environment. -/
def ofSettings (s : LogSettings) (env : Environment) : Logger :=
  { filter := .ofSettings s env, file := s.file.map logFile, json := s.json }

/-- The line of an entry, if it is logged. -/
def line? (l : Logger) (e : Event) : Option String :=
  if l.filter.admits e.record then
    some (if l.json then e.record.jsonLine else e.record.textLine)
  else none

/-- The lines of the entries that are logged. -/
def lines (l : Logger) (events : List Event) : List String := events.filterMap l.line?

/-- The text of the entries that are logged, each line ended. -/
def text (l : Logger) (events : List Event) : String :=
  (l.lines events).foldl (fun text line => text ++ line ++ "\n") ""

variable {m : Type → Type} [Monad m] [FileAccess m]

/-- Opens the log, creating its file and directories. -/
def start (l : Logger) : m (Except OsError Unit) :=
  match l.file with
  | none => return .ok ()
  | some p => FileAccess.prepare p

/-- Logs entries to the file, if the log has one, and gives the text for standard
error. -/
def write (l : Logger) (events : List Event) : m String := do
  let text := l.text events
  match l.file with
  | none => return text
  | some p =>
    if text ≠ "" then let _ ← FileAccess.append p text
    return ""

end Logger

/-- The logger of a process, once one is installed, and what it sent to standard
error. -/
structure LogState where
  logger : Option Logger := none
  stderr : String := ""
deriving DecidableEq, Repr

namespace LogState

variable {m : Type → Type} [Monad m] [FileAccess m]

/-- Whether a logger is installed. -/
def isInstalled (s : LogState) : Bool := s.logger.isSome

/-- Installs a logger unless there is one, and tells whether it did. -/
def install (s : LogState) (settings : LogSettings) (env : Environment) :
    m (Except OsError (Bool × LogState)) :=
  match s.logger with
  | some _ => return .ok (false, s)
  | none => do
    let logger := Logger.ofSettings settings env
    match ← logger.start with
    | .error e => return .error e
    | .ok () => return .ok (true, { s with logger := some logger })

/-- Logs what happened. -/
def log (s : LogState) (events : List Event) : m LogState :=
  match s.logger with
  | none => return s
  | some logger => do return { s with stderr := s.stderr ++ (← logger.write events) }

end LogState

end ProxyForge
