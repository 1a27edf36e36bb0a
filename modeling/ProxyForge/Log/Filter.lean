import ProxyForge.Log.Directive
import ProxyForge.Log.Settings

/-!
# ProxyForge.Log.Filter — which entries are logged

A filter is a list of directives, separated by commas in its text. Among the
directives that speak of an entry the most specific one decides, and of two
equal ones the second. An entry that no directive speaks of is dropped.
-/

namespace ProxyForge

/-- The rules of a log. -/
structure LogFilter where
  directives : List Directive
deriving DecidableEq, Repr

namespace LogFilter

/-- Reads directives separated by commas. Without any, only errors are let
through. -/
def parse? (s : String) : Option LogFilter := do
  let directives ← ((Text.splitString ',' s).filter (· ≠ "")).mapM Directive.parse?
  if directives.isEmpty then return ⟨[{ level := some .error }]⟩ else return ⟨directives⟩

/-- The more specific directive; of two equal ones the second. -/
def closer (a b : Directive) : Directive := if a.outranks b then a else b

/-- The directive that decides about an entry. Nothing is logged inside a span, so
directives that ask for one never decide. -/
def deciding? (f : LogFilter) (r : LogRecord) : Option Directive :=
  (f.directives.filter fun d => d.isStatic && d.speaksOf r).foldl
    (fun best d => some (best.elim d (closer · d))) none

/-- Whether an entry is logged. -/
def admits (f : LogFilter) (r : LogRecord) : Bool :=
  (f.deciding? r).any (·.allows r.level)

/-- The filter that lets the program's own entries through from a level on. -/
def ofLevel (level : Level) : LogFilter :=
  ⟨[{ target := some "guile_shim", level := some level }]⟩

/-- The variable whose directives replace the level. -/
def directivesVariable : String := "RUST_LOG"

/-- The filter of the settings, unless the environment gives directives that can be
read. -/
def ofSettings (s : LogSettings) (env : Environment) : LogFilter :=
  ((env.lookup directivesVariable).bind parse?).getD (ofLevel s.level)

end LogFilter

end ProxyForge
