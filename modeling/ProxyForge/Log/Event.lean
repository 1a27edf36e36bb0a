/-!
# ProxyForge.Log.Event — what the program reports about itself

An `Event` names something that happened. `Event.record` is its entry in the
log: the severity, the part of the program it comes from, a message and
fields in the order in which they are written.
-/

namespace ProxyForge

/-- The severity of a log entry. -/
inductive Level where
  | trace
  | debug
  | info
  | warn
  | error
deriving DecidableEq, Repr

namespace Level

/-- The name of the severity, as log lines write it. -/
def name : Level → String
  | trace => "TRACE"
  | debug => "DEBUG"
  | info => "INFO"
  | warn => "WARN"
  | error => "ERROR"

/-- The rank of the severity: the higher, the graver. -/
def rank : Level → Nat
  | trace => 0
  | debug => 1
  | info => 2
  | warn => 3
  | error => 4

end Level

/-- The value of a field: a text that lines quote, one that they show bare, or a
number. -/
inductive FieldValue where
  | quoted (text : String)
  | bare (text : String)
  | number (n : Nat)
deriving DecidableEq, Repr

/-- An entry of the log. -/
structure LogRecord where
  level : Level
  target : String
  message : String
  fields : List (String × FieldValue)
deriving DecidableEq, Repr

/-- What can happen. -/
inductive Event where
  /-- A heap cell was allocated at this position. -/
  | cellAllocated (index : Nat)
  /-- A list of this many elements was finished. -/
  | listBuilt (length : Nat)
  /-- An artifact of this many entries was written. -/
  | artifactWritten (path : String) (entries : Nat)
  /-- The configuration was found and linking is against this library. -/
  | configResolved (dir library : String)
  /-- The command line asked for this command. -/
  | commandStarted (command : String)
  /-- The registry passed the check and exports this many symbols. -/
  | registryValid (symbols : Nat)
  /-- The registry did not pass the check. -/
  | registryInvalid (error : String)
  /-- There is no configuration. -/
  | configFailed (error : String)
  /-- There is no such primitive. -/
  | lookupFailed (error : String)
deriving DecidableEq, Repr

namespace Event

/-- The log entry of an event. -/
def record : Event → LogRecord
  | cellAllocated index =>
    { level := .trace, target := "guile_shim::heap", message := "cell allocated",
      fields := [("index", .number index)] }
  | listBuilt length =>
    { level := .trace, target := "guile_shim::list", message := "list built",
      fields := [("len", .number length)] }
  | artifactWritten path entries =>
    { level := .info, target := "guile_shim::logging", message := "proxy artifact written",
      fields := [("event", .quoted "codegen"), ("path", .bare path), ("entries", .number entries)] }
  | configResolved dir library =>
    { level := .debug, target := "guile_shim::logging", message := "configuration resolved",
      fields := [("event", .quoted "config"), ("dir", .bare dir), ("library", .quoted library)] }
  | commandStarted command =>
    { level := .debug, target := "guile_shim", message := "guile-shim starting",
      fields := [("command", .bare command)] }
  | registryValid symbols =>
    { level := .info, target := "guile_shim", message := "Registry is valid",
      fields := [("symbols", .number symbols)] }
  | registryInvalid error =>
    { level := .error, target := "guile_shim", message := "Registry is invalid",
      fields := [("error", .bare error)] }
  | configFailed error =>
    { level := .error, target := "guile_shim", message := "Failed to load configuration",
      fields := [("error", .bare error)] }
  | lookupFailed error =>
    { level := .error, target := "guile_shim", message := "Lookup failed",
      fields := [("error", .bare error)] }

end Event

end ProxyForge
