import ProxyForge.Artifacts
import ProxyForge.Compiler.Basic
import ProxyForge.Config.Discovery
import ProxyForge.Registry.Validation

/-!
# ProxyForge.Build — the build step of a package with proxies

A build step is told by environment variables where its package and its output
directory are. It tells the build tool by lines on standard output what it
depends on and what to link, writes the generated files, and when the runtime's
feature is on compiles the C source into a library.

Compilers are behind `CCompiler`, so that the step can be run on a tree of files
as well.
-/

namespace ProxyForge

namespace Build

/-- The variable of the package's directory. -/
def packageVariable : String := "CARGO_MANIFEST_DIR"

/-- The variable of the output directory. -/
def outDirVariable : String := "OUT_DIR"

/-- The variable that is set when the runtime's feature is on. -/
def featureVariable : String := "CARGO_FEATURE_GUILE"

/-- The name of the library made from the proxies. -/
def libraryName : String := "guile_shim"

/-- Why a build step breaks off. -/
inductive Abort where
  /-- A variable that must be set is not. -/
  | missingVariable
  | invalidRegistry (e : RegistryError)
  | config (e : ConfigError)
  | artifacts (e : ArtifactError)
deriving DecidableEq, Repr

/-- The message of a build step that breaks off. -/
def Abort.message : Abort → String
  | missingVariable => "called `Result::unwrap()` on an `Err` value: NotPresent"
  | invalidRegistry e => "invalid primitive registry: " ++ e.message
  | config e => e.message
  | artifacts (.os e) => "failed to write generated proxies: " ++ e.message
  | artifacts .noDefinition => "an entry has no definition"

/-- How a build step ended: its exit code, the message with which it broke off, the
lines for the build tool, and the functions of the library if it made one. -/
structure Ending where
  exit : Nat
  abort : Option Abort := none
  directives : List String := []
  symbols : Option (List String) := none
deriving DecidableEq, Repr

/-- The files of the package whose change makes the step run again. -/
def watchedFiles : List String :=
  ["src/error.rs", "src/registry.rs", "src/codegen.rs", "src/config.rs", Config.fileName]

/-- The lines that say what the step depends on. -/
def dependencyLines : List String :=
  watchedFiles.map ("cargo:rerun-if-changed=" ++ ·)
    ++ [versionVariable, includeDirsVariable, libraryVariable].map
      ("cargo:rerun-if-env-changed=" ++ ·)

/-- The library that the compiler makes. -/
def archive (outDir : Path) : Path := outDir.join ⟨"lib" ++ libraryName ++ ".a"⟩

/-- The lines that say what to link: those of the compiler for the library that it
made, then those of the step itself. -/
def linkLines (outDir : Path) (library : String) : List String :=
  [ "cargo:rustc-link-lib=static=" ++ libraryName,
    "cargo:rustc-link-search=native=" ++ ((archive outDir).parent?.getD ⟨""⟩).text,
    "cargo:rustc-link-search=native=" ++ outDir.text,
    "cargo:rustc-link-lib=static=" ++ libraryName,
    "cargo:rustc-link-lib=" ++ library ]

variable {m : Type → Type} [Monad m] [FileAccess m] [CCompiler m]

/-- The step in a package, with an output directory. -/
def runIn (package outDir : Path) (env : Environment) : m Ending := do
  let stop (e : Abort) : Ending := { exit := 101, abort := some e, directives := dependencyLines }
  match Registry.builtin.validate with
  | .error e => return stop (.invalidRegistry e)
  | .ok () =>
    match ← Config.ofEnv package env with
    | .error e => return stop (.config e)
    | .ok config =>
      match ← writeArtifacts outDir Registry.builtin config.output with
      | .error e => return stop (.artifacts e)
      | .ok artifacts =>
        if (env.lookup featureVariable).isNone then
          return { exit := 0, directives := dependencyLines }
        else
          match ← CCompiler.compile artifacts.source config.runtime.includeSearch with
          | none => return { exit := 1, directives := dependencyLines }
          | some symbols =>
            return { exit := 0, symbols := some symbols,
                     directives := dependencyLines ++ linkLines outDir config.runtime.library }

/-- The step, with the directories that the environment names. -/
def run (env : Environment) : m Ending :=
  match env.lookup packageVariable, env.lookup outDirVariable with
  | some package, some outDir => runIn ⟨package⟩ ⟨outDir⟩ env
  | _, _ => return { exit := 101, abort := some .missingVariable }

end Build

end ProxyForge
