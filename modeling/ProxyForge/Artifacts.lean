import ProxyForge.CText.Emission
import ProxyForge.Config.Basic
import ProxyForge.Files.Access

/-!
# ProxyForge.Artifacts — writing the generated files

The C source is rendered before anything is written, and written before the
header. So a table without a C source leaves all files alone, and so does a
source that cannot be written; a header that cannot be written leaves the source
behind.
-/

namespace ProxyForge

/-- The files that were written. -/
structure Artifacts where
  source : Path
  header : Option Path
deriving DecidableEq, Repr

/-- Why the files were not all written. -/
inductive ArtifactError where
  /-- Some entry of the table has no definition. -/
  | noDefinition
  /-- A file could not be written. -/
  | os (cause : OsError)
deriving DecidableEq, Repr

/-- Writes the generated files of a table into a directory. -/
def writeArtifacts {m : Type → Type} [Monad m] [FileAccess m] (outDir : Path) (r : Registry)
    (settings : OutputSettings) : m (Except ArtifactError Artifacts) := do
  match r.source? with
  | none => return .error .noDefinition
  | some text =>
    let source := outDir.join ⟨settings.sourceName⟩
    match ← FileAccess.write source text with
    | .error e => return .error (.os e)
    | .ok () =>
      if settings.emitHeader then
        let header := outDir.join ⟨settings.headerName⟩
        match ← FileAccess.write header (r.header settings.headerName) with
        | .error e => return .error (.os e)
        | .ok () => return .ok { source, header := some header }
      else return .ok { source, header := none }

end ProxyForge
