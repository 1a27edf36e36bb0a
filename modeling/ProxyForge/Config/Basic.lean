import ProxyForge.Path
import ProxyForge.Toml.Document

/-!
# ProxyForge.Config.Basic — the configuration

A configuration says which runtime the proxies are for and what is generated.
It is written as a TOML document with two sections, `guile` and `codegen`; every
other key of the document, and of a section, is ignored.

A section is a table of its fields, or an array of them in the order in which
they are declared, or a point in time, which gives none. Each field that is
given must have its type, and each one that is not has its own default.
Environment variables override fields of the runtime section, and
`RuntimeSettings.library` and `RuntimeSettings.includeSearch` derive what the
build needs.
-/

namespace ProxyForge

/-- The runtime that the proxies are for. -/
structure RuntimeSettings where
  version : String := "3.0"
  includeDirs : List Path := []
  libName : Option String := none
deriving DecidableEq, Repr

/-- What is generated. -/
structure OutputSettings where
  sourceName : String := "guile_shim.c"
  headerName : String := "guile_shim.h"
  emitHeader : Bool := true
deriving DecidableEq, Repr

/-- A configuration. -/
structure Config where
  runtime : RuntimeSettings := {}
  output : OutputSettings := {}
deriving DecidableEq, Repr

/-! ## Reading a document -/

namespace Config

/-- The fields that a section gives, by key or by position; `none` when it has no
shape of a section. -/
def sectionFields? : Toml.Value → Option (String → Nat → Option Toml.Value)
  | .table entries => some fun key _ => entries.lookup key
  | .array items => some fun _ position => items[position]?
  | .dateTime _ => some fun _ _ => none
  | _ => none

/-- A field that is given must have its type; one that is not has its default. -/
def fieldOr {α : Type} (absent : α) (decode : Toml.Value → Option α) :
    Option Toml.Value → Option α
  | none => some absent
  | some v => decode v

/-- A text. -/
def text? : Toml.Value → Option String
  | .string s => some s
  | _ => none

/-- A truth value. -/
def truth? : Toml.Value → Option Bool
  | .boolean b => some b
  | _ => none

/-- An array of texts that name directories. -/
def paths? : Toml.Value → Option (List Path)
  | .array items => items.mapM fun item => (text? item).map Path.mk
  | _ => none

/-- The runtime section. -/
def runtimeOf? (v : Toml.Value) : Option RuntimeSettings := do
  let field ← sectionFields? v
  let absent : RuntimeSettings := {}
  return {
    version := ← fieldOr absent.version text? (field "version" 0)
    includeDirs := ← fieldOr absent.includeDirs paths? (field "include_dirs" 1)
    libName := ← fieldOr absent.libName (fun v => (text? v).map some) (field "lib_name" 2) }

/-- The output section. -/
def outputOf? (v : Toml.Value) : Option OutputSettings := do
  let field ← sectionFields? v
  let absent : OutputSettings := {}
  return {
    sourceName := ← fieldOr absent.sourceName text? (field "source_name" 0)
    headerName := ← fieldOr absent.headerName text? (field "header_name" 1)
    emitHeader := ← fieldOr absent.emitHeader truth? (field "emit_header" 2) }

/-- The configuration that a document gives. -/
def ofTable? (t : Toml.Table) : Option Config := do
  return {
    runtime := ← fieldOr {} runtimeOf? (t.lookup "guile")
    output := ← fieldOr {} outputOf? (t.lookup "codegen") }

/-- The configuration that the text of a document gives. -/
def parse? (text : String) : Option Config := do ofTable? (← Toml.parse? text)

end Config

/-! ## Environment -/

/-- The values of environment variables. -/
abbrev Environment := List (String × String)

/-- The variable that sets the version of the runtime. -/
def versionVariable : String := "GUILE_SHIM_GUILE_VERSION"

/-- The variable that sets the include directories, separated by colons. -/
def includeDirsVariable : String := "GUILE_SHIM_INCLUDE_DIRS"

/-- The variable that sets the library. -/
def libraryVariable : String := "GUILE_SHIM_LIB"

/-- The directories of a search list. -/
def searchList (s : String) : List Path := (Text.splitString ':' s).map Path.mk

namespace RuntimeSettings

/-- The settings with what the environment overrides. -/
def applyEnv (s : RuntimeSettings) (env : Environment) : RuntimeSettings :=
  { version := (env.lookup versionVariable).getD s.version
    includeDirs := ((env.lookup includeDirsVariable).map searchList).getD s.includeDirs
    libName := (env.lookup libraryVariable).or s.libName }

/-- The library to link against. -/
def library (s : RuntimeSettings) : String :=
  s.libName.getD ("guile-" ++ s.version)

/-- The directories under which the runtime's headers are found by convention. -/
def includeRoots : List Path := [⟨"/usr/include"⟩, ⟨"/usr/local/include"⟩]

/-- The directories to search for the runtime's headers. -/
def includeSearch (s : RuntimeSettings) : List Path :=
  if s.includeDirs.isEmpty then
    includeRoots.map fun root => (root.join ⟨"guile"⟩).join ⟨s.version⟩
  else s.includeDirs

end RuntimeSettings

/-- The configuration with what the environment overrides. -/
def Config.applyEnv (c : Config) (env : Environment) : Config :=
  { c with runtime := c.runtime.applyEnv env }

end ProxyForge
