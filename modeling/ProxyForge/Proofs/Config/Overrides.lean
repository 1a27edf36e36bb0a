import ProxyForge.CommandLine.Run
import ProxyForge.Proofs.Config.Discovery
import ProxyForge.Proofs.Text.Lines

/-!
# ProxyForge.Proofs.Config.Overrides — environment over file over convention

What the build takes from a configuration is settled in three layers: a variable of the
environment, else a field of the configuration, else a convention that is made from the
version, which has a variable of its own. `LibraryFrom` and `SearchFrom` give the layers as
rules, each with the condition under which it applies, and `library_applyEnv_iff` and
`includeSearch_applyEnv_iff` say that the settings follow exactly these rules.

Environments that are applied in turn are one environment in which the later one comes
first (`applyEnv_applyEnv`). The command line finds a configuration and applies the
environment in the same order as the search does (`loadConfig_eq_ofEnv`).
-/

namespace ProxyForge

/-! ## Settings -/

namespace RuntimeSettings

variable {s : RuntimeSettings} {env env' : Environment} {lib : String} {dirs : List Path}

/-- The version that counts: the one of the environment, else the one of the settings. -/
def versionUnder (s : RuntimeSettings) (env : Environment) : String :=
  (env.lookup versionVariable).getD s.version

/-- The rules for the library, from the first layer to the last. -/
inductive LibraryFrom (s : RuntimeSettings) (env : Environment) : String → Prop where
  | environment {lib : String} (hset : env.lookup libraryVariable = some lib) :
      LibraryFrom s env lib
  | field {lib : String} (hunset : env.lookup libraryVariable = none)
      (hgiven : s.libName = some lib) : LibraryFrom s env lib
  | convention (hunset : env.lookup libraryVariable = none) (habsent : s.libName = none) :
      LibraryFrom s env ("guile-" ++ s.versionUnder env)

/-- The rules for the directories to search. The parts of the variable are told by two
things: they hold no colon, and joined by colons they are the variable. -/
inductive SearchFrom (s : RuntimeSettings) (env : Environment) : List Path → Prop where
  | environment {value : String} {parts : List String}
      (hset : env.lookup includeDirsVariable = some value) (hne : parts ≠ [])
      (hparts : ∀ part ∈ parts, ':' ∉ part.toList)
      (hjoin : Text.joinStrings ':' parts = value) : SearchFrom s env (parts.map Path.mk)
  | field (hunset : env.lookup includeDirsVariable = none) (hgiven : s.includeDirs ≠ []) :
      SearchFrom s env s.includeDirs
  | convention (hunset : env.lookup includeDirsVariable = none) (habsent : s.includeDirs = []) :
      SearchFrom s env
        [Path.join ⟨"/usr/include/guile"⟩ ⟨s.versionUnder env⟩,
          Path.join ⟨"/usr/local/include/guile"⟩ ⟨s.versionUnder env⟩]

theorem version_applyEnv (s : RuntimeSettings) (env : Environment) :
    (s.applyEnv env).version = s.versionUnder env := rfl

/-- Some rule applies, whatever is set and given. -/
theorem exists_libraryFrom (s : RuntimeSettings) (env : Environment) :
    ∃ lib, s.LibraryFrom env lib := by
  cases hset : env.lookup libraryVariable with
  | some value => exact ⟨value, .environment hset⟩
  | none =>
    cases hgiven : s.libName with
    | some name => exact ⟨name, .field hset hgiven⟩
    | none => exact ⟨_, .convention hset hgiven⟩

/-- The settings follow the rule that applies. -/
theorem LibraryFrom.eq (hrule : s.LibraryFrom env lib) : (s.applyEnv env).library = lib := by
  have hlibrary : (s.applyEnv env).library =
      ((env.lookup libraryVariable).or s.libName).getD ("guile-" ++ s.versionUnder env) := rfl
  rw [hlibrary]
  cases hrule with
  | environment hset =>
    rw [hset]
    rfl
  | field hunset hgiven =>
    rw [hunset, hgiven]
    rfl
  | convention hunset habsent =>
    rw [hunset, habsent]
    rfl

theorem library_applyEnv_iff : (s.applyEnv env).library = lib ↔ s.LibraryFrom env lib := by
  constructor
  · rintro rfl
    rcases exists_libraryFrom s env with ⟨lib, hrule⟩
    rw [hrule.eq]
    exact hrule
  · exact LibraryFrom.eq

/-- Without directories of their own settings search under the conventional roots. -/
theorem includeSearch_of_nil (hnil : s.includeDirs = []) :
    s.includeSearch =
      [Path.join ⟨"/usr/include/guile"⟩ ⟨s.version⟩,
        Path.join ⟨"/usr/local/include/guile"⟩ ⟨s.version⟩] := by
  have hroots : includeRoots.map (fun root => root.join ⟨"guile"⟩) =
      [⟨"/usr/include/guile"⟩, ⟨"/usr/local/include/guile"⟩] := by decide
  have hsearch : s.includeSearch =
      (includeRoots.map fun root => root.join ⟨"guile"⟩).map fun dir => dir.join ⟨s.version⟩ := by
    rw [includeSearch, hnil, List.map_map]
    rfl
  rw [hsearch, hroots]
  rfl

theorem includeSearch_of_ne_nil (hne : s.includeDirs ≠ []) : s.includeSearch = s.includeDirs := by
  unfold includeSearch
  rw [if_neg]
  simpa using hne

theorem exists_searchFrom (s : RuntimeSettings) (env : Environment) :
    ∃ dirs, s.SearchFrom env dirs := by
  cases hset : env.lookup includeDirsVariable with
  | some value =>
    have hvalue : Text.splitString ':' value = Text.splitString ':' value := rfl
    rcases Text.splitString_eq_iff.1 hvalue with ⟨hne, hparts, hjoin⟩
    exact ⟨_, .environment hset hne hparts hjoin⟩
  | none =>
    by_cases hnil : s.includeDirs = []
    · exact ⟨_, .convention hset hnil⟩
    · exact ⟨_, .field hset hnil⟩

theorem SearchFrom.eq (hrule : s.SearchFrom env dirs) :
    (s.applyEnv env).includeSearch = dirs := by
  have hdirs : (s.applyEnv env).includeDirs =
      ((env.lookup includeDirsVariable).map searchList).getD s.includeDirs := rfl
  cases hrule with
  | environment hset hne hparts hjoin =>
    -- the parts are the ones that the variable is split into, and there is one at least
    rw [hset, Option.map_some, Option.getD_some, searchList,
      Text.splitString_eq_iff.2 ⟨hne, hparts, hjoin⟩] at hdirs
    rw [includeSearch_of_ne_nil, hdirs]
    rw [hdirs]
    simpa using hne
  | field hunset hgiven =>
    rw [hunset, Option.map_none, Option.getD_none] at hdirs
    rw [includeSearch_of_ne_nil (by rw [hdirs]; exact hgiven), hdirs]
  | convention hunset habsent =>
    rw [hunset, Option.map_none, Option.getD_none] at hdirs
    rw [includeSearch_of_nil (hdirs.trans habsent), version_applyEnv]

theorem includeSearch_applyEnv_iff :
    (s.applyEnv env).includeSearch = dirs ↔ s.SearchFrom env dirs := by
  constructor
  · rintro rfl
    rcases exists_searchFrom s env with ⟨dirs, hrule⟩
    rw [hrule.eq]
    exact hrule
  · exact SearchFrom.eq

/-! ## Environments in turn -/

/-- Only three variables matter. -/
theorem applyEnv_congr (hversion : env'.lookup versionVariable = env.lookup versionVariable)
    (hdirs : env'.lookup includeDirsVariable = env.lookup includeDirsVariable)
    (hlibrary : env'.lookup libraryVariable = env.lookup libraryVariable) :
    s.applyEnv env' = s.applyEnv env := by
  unfold applyEnv
  rw [hversion, hdirs, hlibrary]

/-- Of two environments that are applied in turn, the later one comes first. -/
theorem applyEnv_applyEnv (s : RuntimeSettings) (env env' : Environment) :
    (s.applyEnv env).applyEnv env' = s.applyEnv (env' ++ env) := by
  unfold applyEnv
  simp only [List.lookup_append]
  cases env'.lookup versionVariable <;> cases env'.lookup includeDirsVariable <;>
    cases env'.lookup libraryVariable <;> rfl

end RuntimeSettings

namespace Config

/-- The same environment once more has nothing to add. -/
theorem applyEnv_self (c : Config) (env : Environment) :
    (c.applyEnv env).applyEnv env = c.applyEnv env := by
  have htwice : ∀ key, (env ++ env).lookup key = env.lookup key := by
    intro key
    rw [List.lookup_append]
    cases env.lookup key <;> rfl
  have hruntime : (c.runtime.applyEnv env).applyEnv env = c.runtime.applyEnv env := by
    rw [RuntimeSettings.applyEnv_applyEnv]
    exact RuntimeSettings.applyEnv_congr (htwice _) (htwice _) (htwice _)
  unfold applyEnv
  rw [hruntime]

end Config

/-! ## The command line -/

namespace CommandLine

variable {m : Type → Type} [Monad m] [FileAccess m]

/-- Without a file of its own the command line does what the search under an environment
does, whatever files there are and however they are read. -/
theorem loadConfig_eq_ofEnv {o : Options} (ho : o.config = none) (env : Environment) :
    (loadConfig o env : m (Except ConfigError Config)) =
      FileAccess.workingDir >>= fun dir => Config.ofEnv dir env := by
  unfold loadConfig Config.ofEnv
  rw [ho]

end CommandLine

/-! ## The layers -/

namespace Config

open FileTree

/-- The working directory of a tree, from the root. -/
def workingDirOf (t : FileTree) : Path := ⟨"/" ++ "/".intercalate t.workingDir⟩

/-- What the build takes from a configuration under an environment is what the rules for the
layers give, for any texts in them. The output settings are those of the configuration, and
the same environment changes nothing when it is applied again. On any tree, with any files
that cannot be read, the command line without a configuration file of its own has the
configuration that the search from the working directory finds, or its error. -/
theorem environment_overrides_configuration (c : Config) (env : Environment) :
    (∀ lib, (c.applyEnv env).runtime.library = lib ↔ c.runtime.LibraryFrom env lib) ∧
    (∀ dirs, (c.applyEnv env).runtime.includeSearch = dirs ↔ c.runtime.SearchFrom env dirs) ∧
    (c.applyEnv env).output = c.output ∧
    (c.applyEnv env).applyEnv env = c.applyEnv env ∧
    ∀ (o : Options), o.config = none → ∀ (locks : Locks) (t : FileTree),
      ((CommandLine.loadConfig o env : Locked (Except ConfigError Config)).run locks).run t =
        ((Config.ofEnv (workingDirOf t) env : Locked (Except ConfigError Config)).run locks).run
          t ∧
      (CommandLine.loadConfig o env : StateM FileTree (Except ConfigError Config)).run t =
        (Config.ofEnv (workingDirOf t) env : StateM FileTree (Except ConfigError Config)).run
          t := by
  refine ⟨fun lib => RuntimeSettings.library_applyEnv_iff,
    fun dirs => RuntimeSettings.includeSearch_applyEnv_iff, rfl, c.applyEnv_self env, ?_⟩
  intro o ho locks t
  rw [CommandLine.loadConfig_eq_ofEnv ho, CommandLine.loadConfig_eq_ofEnv ho]
  exact ⟨rfl, rfl⟩

/-- A library and a search list in the environment, the list with empty parts; a
configuration with other ones; and a tree whose nearest file cannot be read. -/
theorem environment_overrides_configuration_over_estate :
    let c : Config := { runtime := { includeDirs := [⟨"inc"⟩], libName := some "own" } }
    let env : Environment := [(includeDirsVariable, ":/a::b"), (versionVariable, "2.2")]
    let t : FileTree := { estate with workingDir := ["a", "b"] }
    (c.applyEnv env).runtime.library = "own" ∧
    (c.applyEnv env).runtime.includeSearch = [⟨""⟩, ⟨"/a"⟩, ⟨""⟩, ⟨"b"⟩] ∧
    (({ command := .check } : Options).config = none ∧
      ((CommandLine.loadConfig { command := .check } env :
        StateM FileTree (Except ConfigError Config)).run t).1 =
          .error (.unreadable ⟨"/a/guile-shim.toml"⟩ .notText)) := by
  intro c env t
  rcases environment_overrides_configuration c env with ⟨hlibrary, hsearch, -, -, hload⟩
  refine ⟨(hlibrary _).2 (.field rfl rfl), (hsearch _).2 ?_, rfl, ?_⟩
  · have hparts : ∀ part ∈ ["", "/a", "", "b"], ':' ∉ part.toList := by decide
    exact .environment rfl (List.cons_ne_nil _ _) hparts (by decide)
  · rw [(hload { command := .check } rfl (fun _ => none) t).2]
    decide +kernel

end Config

end ProxyForge
