import ProxyForge.Config.Basic
import ProxyForge.Files.Access

/-!
# ProxyForge.Config.Discovery — finding the configuration

Without an explicit file, the configuration is the first file of the name
`guile-shim.toml` in a directory or one of its lexical parents, whatever that
file holds; when there is none, every field has its default.
-/

namespace ProxyForge

/-- Why a file gives no text. -/
inductive ReadError where
  | os (cause : OsError)
  | notText
deriving DecidableEq, Repr

/-- The text of the error. -/
def ReadError.message : ReadError → String
  | os cause => cause.message
  | notText => "stream did not contain valid UTF-8"

/-- Why there is no configuration. -/
inductive ConfigError where
  | unreadable (path : Path) (cause : ReadError)
  | malformed
deriving DecidableEq, Repr

/-- The text of the error. -/
def ConfigError.message : ConfigError → String
  | unreadable path cause => "failed to read config " ++ path.text ++ ": " ++ cause.message
  | malformed => "failed to parse config"

namespace Path

/-- A path and its parents, from the nearest to the farthest, at most `bound` of
them. -/
def ancestorsWithin : (bound : Nat) → Path → List Path
  | 0, _ => []
  | bound + 1, p =>
    match p.parent? with
    | none => [p]
    | some parent => p :: ancestorsWithin bound parent

/-- A path and its parents. Each is shorter than the one before. -/
def ancestors (p : Path) : List Path := ancestorsWithin (p.text.length + 1) p

end Path

namespace Config

/-- The name of configuration files. -/
def fileName : String := "guile-shim.toml"

variable {m : Type → Type} [Monad m] [FileAccess m]

/-- The text of a file. -/
def readText (p : Path) : m (Except ReadError String) := do
  match ← FileAccess.read p with
  | .error e => return .error (.os e)
  | .ok bytes => return (String.fromUTF8? bytes).elim (.error .notText) .ok

/-- The configuration in a file. -/
def load (p : Path) : m (Except ConfigError Config) := do
  match ← readText p with
  | .error e => return .error (.unreadable p e)
  | .ok text => return (parse? text).elim (.error .malformed) .ok

/-- The configuration in the first of the directories that has one. -/
def discoverAmong : List Path → m (Except ConfigError Config)
  | [] => return .ok {}
  | dir :: rest => do
    let file := dir.join ⟨fileName⟩
    if ← FileAccess.isFile file then load file else discoverAmong rest

/-- The configuration that applies in a directory. -/
def discover (start : Path) : m (Except ConfigError Config) := discoverAmong start.ancestors

/-- The configuration that applies in a directory, with what the environment
overrides. -/
def ofEnv (start : Path) (env : Environment) : m (Except ConfigError Config) := do
  return (← discover start).map (·.applyEnv env)

end Config

end ProxyForge
