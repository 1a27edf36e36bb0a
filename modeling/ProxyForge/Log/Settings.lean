import ProxyForge.Config.Basic
import ProxyForge.Log.Event

/-!
# ProxyForge.Log.Settings — how the program is asked to log

The settings come from environment variables: a level by its name in any case, a
file, and two switches that are on when their variable is set to anything at
all.
-/

namespace ProxyForge

/-- How to log. -/
structure LogSettings where
  level : Level := .warn
  /-- The log file; without one the log goes to standard error. -/
  file : Option Path := none
  json : Bool := false
  spans : Bool := false
deriving DecidableEq, Repr

/-- The level with the given name, in any case. -/
def Level.ofName? (name : String) : Option Level :=
  match String.ofList (name.toList.map Char.toLower) with
  | "trace" => some .trace
  | "debug" => some .debug
  | "info" => some .info
  | "warn" => some .warn
  | "error" => some .error
  | _ => none

namespace LogSettings

/-- The variable of the level. -/
def levelVariable : String := "GUILE_SHIM_LOG_LEVEL"

/-- The variable of the log file. -/
def fileVariable : String := "GUILE_SHIM_LOG_FILE"

/-- The switch for JSON lines. -/
def jsonVariable : String := "GUILE_SHIM_LOG_JSON"

/-- The switch for spans. -/
def spansVariable : String := "GUILE_SHIM_LOG_SPANS"

/-- The settings that the environment asks for. A level that is no level counts as
the default. -/
def ofEnv (env : Environment) : LogSettings :=
  { level := ((env.lookup levelVariable).bind Level.ofName?).getD .warn
    file := (env.lookup fileVariable).map Path.mk
    json := (env.lookup jsonVariable).isSome
    spans := (env.lookup spansVariable).isSome }

/-- Settings for a closer look. -/
def verbose : LogSettings := { level := .debug, spans := true }

end LogSettings

end ProxyForge
