import ProxyForge.Proofs.Files.Reading
import ProxyForge.Proofs.Paths

/-!
# ProxyForge.Proofs.Config.Discovery — which file a search takes

A search goes through the lineage of the directory it starts in. `Reaches` says how far it
comes: to a directory such that no nearer one holds a configuration file. A file in a
directory that is reached ends the search (`amongUnder_of_reaches`), and what it holds
cannot send the search on. The places that reached directories have for a configuration
file are the only ones that matter (`Consulted`, `amongUnder_congr`).

The search is run over trees some of whose files cannot be read; with all files readable it
is the search over the tree itself (`discoverUnder_none`).
-/

namespace ProxyForge.Config

open FileTree

variable {t t' : FileTree} {locks locks' : Locks} {p start dir d : Path} {dirs : List Path}
  {place : List String}

/-- The file that would hold the configuration of a directory. -/
def candidate (dir : Path) : Path := dir.join ⟨fileName⟩

/-! ## Runs on a tree -/

/-- The configuration in a file, on a tree some of whose files cannot be read. -/
def loadUnder (locks : Locks) (t : FileTree) (p : Path) : Except ConfigError Config :=
  (((load p : Locked (Except ConfigError Config)).run locks).run t).1

/-- The configuration in the first of the directories that has one. -/
def amongUnder (locks : Locks) (t : FileTree) (dirs : List Path) : Except ConfigError Config :=
  (((discoverAmong dirs : Locked (Except ConfigError Config)).run locks).run t).1

/-- The configuration that applies in a directory. -/
def discoverUnder (locks : Locks) (t : FileTree) (start : Path) : Except ConfigError Config :=
  (((discover start : Locked (Except ConfigError Config)).run locks).run t).1

/-- The configuration in what was read of a file. -/
def ofContent (p : Path) : Except OsError ByteArray → Except ConfigError Config
  | .error e => .error (.unreadable p (.os e))
  | .ok bytes =>
    match String.fromUTF8? bytes with
    | none => .error (.unreadable p .notText)
    | some text => (parse? text).elim (.error .malformed) .ok

theorem loadUnder_eq : loadUnder locks t p = ofContent p (t.readUnder locks p) := by
  unfold loadUnder load readText ofContent
  rw [locked_run_bind, locked_run_bind, locked_run_read]
  cases t.readUnder locks p with
  | error e => rfl
  | ok bytes =>
    dsimp only
    cases String.fromUTF8? bytes <;> rfl

/-- A file that reads the same gives the same configuration, or the same error. -/
theorem loadUnder_congr (hread : t'.readUnder locks' p = t.readUnder locks p) :
    loadUnder locks' t' p = loadUnder locks t p := by
  rw [loadUnder_eq, loadUnder_eq, hread]

theorem discoverUnder_eq : discoverUnder locks t start = amongUnder locks t start.ancestors := rfl

theorem amongUnder_nil : amongUnder locks t [] = .ok {} := rfl

/-- One turn of the search. -/
theorem amongUnder_cons : amongUnder locks t (dir :: dirs) =
    if t.isFile (candidate dir) then loadUnder locks t (candidate dir)
    else amongUnder locks t dirs := by
  have hturn : amongUnder locks t (dir :: dirs) =
      (((if t.isFile (candidate dir) then load (candidate dir) else discoverAmong dirs :
        Locked (Except ConfigError Config)).run locks).run t).1 := rfl
  rw [hturn]
  cases t.isFile (candidate dir) <;> rfl

theorem amongUnder_of_file (hfile : t.HoldsFile (candidate dir)) :
    amongUnder locks t (dir :: dirs) = loadUnder locks t (candidate dir) := by
  rw [amongUnder_cons, if_pos (isFile_iff.2 hfile)]

/-- Whatever else is at the name, the search goes on. -/
theorem amongUnder_of_no_file (hnone : ¬ t.HoldsFile (candidate dir)) :
    amongUnder locks t (dir :: dirs) = amongUnder locks t dirs := by
  rw [amongUnder_cons, if_neg fun hfile => hnone (isFile_iff.1 hfile)]

/-- With all files readable the search is the one over the tree itself. -/
theorem discoverUnder_none (t : FileTree) (start : Path) :
    discoverUnder (fun _ => none) t start =
      ((discover start : StateM FileTree (Except ConfigError Config)).run t).1 := by
  have hload : ∀ p, loadUnder (fun _ => none) t p =
      ((load p : StateM FileTree (Except ConfigError Config)).run t).1 := by
    intro p
    have hread : (FileAccess.read p : StateM FileTree (Except OsError ByteArray)).run t =
        (t.read p, t) := rfl
    rw [loadUnder_eq, readUnder_none]
    unfold load readText ofContent
    rw [run_bind, run_bind, hread]
    cases t.read p with
    | error e => rfl
    | ok bytes =>
      dsimp only
      cases String.fromUTF8? bytes <;> rfl
  rw [discoverUnder_eq]
  unfold discover
  induction start.ancestors with
  | nil => rfl
  | cons dir dirs ih =>
    have hturn : ((discoverAmong (dir :: dirs) : StateM FileTree (Except ConfigError Config)).run
        t).1 = ((if t.isFile (candidate dir) then load (candidate dir) else discoverAmong dirs :
          StateM FileTree (Except ConfigError Config)).run t).1 := rfl
    rw [amongUnder_cons, hload, ih, hturn]
    cases t.isFile (candidate dir) <;> rfl

/-! ## How far a search comes -/

/-- The search comes to the directory: no nearer one holds a configuration file. -/
def Reaches (t : FileTree) (dirs : List Path) (dir : Path) : Prop :=
  ∃ nearer farther, dirs = nearer ++ dir :: farther ∧ ∀ d ∈ nearer, ¬ t.HoldsFile (candidate d)

/-- The place of a configuration file of a directory to which the search comes. -/
def Consulted (t : FileTree) (dirs : List Path) (place : List String) : Prop :=
  ∃ dir, Reaches t dirs dir ∧ t.target (candidate dir) = .ok place

/-- The search comes to the first directory, and past it when no file is there. -/
theorem reaches_cons_iff : Reaches t (d :: dirs) dir ↔
    dir = d ∨ ¬ t.HoldsFile (candidate d) ∧ Reaches t dirs dir := by
  constructor
  · rintro ⟨nearer, farther, hdirs, hnearer⟩
    cases nearer with
    | nil =>
      cases hdirs
      exact .inl rfl
    | cons first nearer =>
      cases hdirs
      have hnext : ∀ d ∈ nearer, ¬ t.HoldsFile (candidate d) :=
        fun other hother => hnearer other (List.mem_cons_of_mem _ hother)
      exact .inr ⟨hnearer _ List.mem_cons_self, nearer, farther, rfl, hnext⟩
  · rintro (rfl | ⟨hnone, nearer, farther, rfl, hnearer⟩)
    · exact ⟨[], dirs, rfl, fun _ hd => absurd hd List.not_mem_nil⟩
    · exact ⟨d :: nearer, farther, rfl, List.forall_mem_cons.2 ⟨hnone, hnearer⟩⟩

/-- Only a file ends the search, and it does so whatever it holds. -/
theorem amongUnder_of_reaches (hreaches : Reaches t dirs dir)
    (hfile : t.HoldsFile (candidate dir)) :
    amongUnder locks t dirs = loadUnder locks t (candidate dir) := by
  rcases hreaches with ⟨nearer, farther, rfl, hnearer⟩
  induction nearer with
  | nil => exact amongUnder_of_file hfile
  | cons d nearer ih =>
    rw [List.cons_append, amongUnder_of_no_file (hnearer d (by simp))]
    exact ih fun other hother => hnearer other (by simp [hother])

theorem amongUnder_of_no_files (hnone : ∀ dir ∈ dirs, ¬ t.HoldsFile (candidate dir)) :
    amongUnder locks t dirs = .ok {} := by
  induction dirs with
  | nil => exact amongUnder_nil
  | cons dir dirs ih =>
    rw [amongUnder_of_no_file (hnone dir (by simp))]
    exact ih fun other hother => hnone other (by simp [hother])

/-- Trees with the same directories that agree at the places of reached configuration files
give the same result. -/
theorem amongUnder_congr (h : SameDirs t t')
    (hplace : ∀ place, Consulted t dirs place →
      t'.node? place = t.node? place ∧ locks' place = locks place) :
    amongUnder locks' t' dirs = amongUnder locks t dirs := by
  induction dirs with
  | nil => rfl
  | cons dir dirs ih =>
    have hhere : ∀ place, t.target (candidate dir) = .ok place →
        t'.node? place = t.node? place ∧ locks' place = locks place :=
      fun place htarget => hplace place ⟨dir, reaches_cons_iff.2 (.inl rfl), htarget⟩
    have hfiles : t'.HoldsFile (candidate dir) ↔ t.HoldsFile (candidate dir) :=
      h.holdsFile_iff fun place htarget => (hhere place htarget).1
    by_cases hfile : t.HoldsFile (candidate dir)
    · rw [amongUnder_of_file hfile, amongUnder_of_file (hfiles.2 hfile)]
      exact loadUnder_congr (h.readUnder_eq hfile hhere)
    · -- only here the search goes on, and what it consults farther off counts
      rw [amongUnder_of_no_file hfile, amongUnder_of_no_file (mt hfiles.1 hfile)]
      refine ih fun place hconsulted => hplace place ?_
      rcases hconsulted with ⟨farther, hreaches, htarget⟩
      exact ⟨farther, reaches_cons_iff.2 (.inr ⟨hfile, hreaches⟩), htarget⟩

/-! ## The nearest file -/

/-- A directory without a configuration file has the configuration of its parent. -/
theorem discoverUnder_parent (hparent : start.parent? = some p)
    (hnone : ¬ t.HoldsFile (candidate start)) :
    discoverUnder locks t start = discoverUnder locks t p := by
  have hancestors : start :: p.ancestors = start.ancestors :=
    (Path.Lineage.more hparent p.lineage_ancestors).eq_ancestors
  rw [discoverUnder_eq, discoverUnder_eq, ← hancestors, amongUnder_of_no_file hnone]

/-- A search ends, and takes the file of the nearest directory that has one. It gives what
loading this file gives, its error included, and the defaults when there is no file. What
is not a file is passed by. Nothing but the files that the search comes to has a part in
the result: any other file may be put, replaced or removed. -/
theorem search_takes_nearest_file (locks : Locks) (t : FileTree) (start : Path) :
    ∃ dirs, start.Lineage dirs ∧ (∀ others, start.Lineage others → others = dirs) ∧
      (∀ dir, Reaches t dirs dir → t.HoldsFile (candidate dir) →
        discoverUnder locks t start = loadUnder locks t (candidate dir)) ∧
      ((∀ dir ∈ dirs, ¬ t.HoldsFile (candidate dir)) → discoverUnder locks t start = .ok {}) ∧
      (∀ parent within name slash, start.parent? = some parent →
        t.locate (candidate start) = .ok (.entry within name slash) →
        t.node? (within ++ [name]) = some .directory →
        discoverUnder locks t start = discoverUnder locks t parent) ∧
      (∀ t' locks', SameDirs t t' →
        (∀ place, Consulted t dirs place →
          t'.node? place = t.node? place ∧ locks' place = locks place) →
        discoverUnder locks' t' start = discoverUnder locks t start) ∧
      (∀ place, t.node? place ≠ some .directory → ¬ Consulted t dirs place →
        (∀ content, discoverUnder locks (t.put place (.file content)) start =
          discoverUnder locks t start) ∧
        discoverUnder locks (t.erase place) start = discoverUnder locks t start) := by
  have hsame : ∀ t' locks', SameDirs t t' →
      (∀ place, Consulted t start.ancestors place →
        t'.node? place = t.node? place ∧ locks' place = locks place) →
      discoverUnder locks' t' start = discoverUnder locks t start :=
    fun t' locks' hdirs hplace => amongUnder_congr hdirs hplace
  refine ⟨start.ancestors, start.lineage_ancestors, fun others => Path.Lineage.eq_ancestors,
    fun dir hreaches hfile => amongUnder_of_reaches hreaches hfile, amongUnder_of_no_files,
    ?_, hsame, ?_⟩
  · intro parent within name slash hparent hlocate hnode
    exact discoverUnder_parent hparent (not_holdsFile_of_directory hlocate hnode)
  · intro place hnode hother
    -- a consulted place is not the one that changes
    have hne : ∀ q, Consulted t start.ancestors q → q ≠ place := by
      rintro q hq rfl
      exact hother hq
    constructor
    · intro content
      exact hsame _ _ (sameDirs_put_file hnode) fun q hq => ⟨node?_put_of_ne (hne q hq), rfl⟩
    · exact hsame _ _ (sameDirs_erase hnode) fun q hq => ⟨node?_erase_of_ne (hne q hq), rfl⟩

/-- A directory in the place of the nearest file, bytes that are no text in the next one,
and a good file farther off. -/
def estate : FileTree where
  nodes := [(["a"], .directory), (["a", "b"], .directory), (["a", "b", fileName], .directory),
    (["a", fileName], .file ⟨#[0xff]⟩), ([fileName], .file "".toUTF8)]

/-- The directory is passed by and the broken file is not, whether the good one is there or
not. -/
theorem search_takes_nearest_file_in_estate :
    discoverUnder (fun _ => none) estate ⟨"a/b"⟩ =
        .error (.unreadable ⟨"a/guile-shim.toml"⟩ .notText) ∧
      discoverUnder (fun _ => none) (estate.erase [fileName]) ⟨"a/b"⟩ =
        discoverUnder (fun _ => none) estate ⟨"a/b"⟩ := by
  rcases search_takes_nearest_file (fun _ => none) estate ⟨"a/b"⟩ with
    ⟨dirs, hlineage, -, hnearest, -, -, -, hother⟩
  have hdirs : dirs = [⟨"a/b"⟩, ⟨"a"⟩, ⟨""⟩] := hlineage.eq_ancestors.trans (by decide +kernel)
  have hdirectory : ¬ estate.HoldsFile (candidate ⟨"a/b"⟩) := by
    rw [← isFile_iff]
    decide +kernel
  have hbroken : estate.HoldsFile (candidate ⟨"a"⟩) := isFile_iff.1 (by decide +kernel)
  have hreaches : Reaches estate dirs ⟨"a"⟩ := by
    rw [hdirs]
    exact reaches_cons_iff.2 (.inr ⟨hdirectory, reaches_cons_iff.2 (.inl rfl)⟩)
  constructor
  · rw [hnearest _ hreaches hbroken]
    decide +kernel
  · refine (hother [fileName] (by decide +kernel) ?_).2
    rintro ⟨dir, hreached, htarget⟩
    rw [hdirs, reaches_cons_iff, reaches_cons_iff] at hreached
    rcases hreached with rfl | ⟨-, rfl | ⟨hpassed, -⟩⟩
    · have herror : estate.target (candidate ⟨"a/b"⟩) = .error .isADirectory := by decide +kernel
      cases herror.symm.trans htarget
    · have hplace : estate.target (candidate ⟨"a"⟩) = .ok ["a", fileName] := by decide +kernel
      exact absurd (hplace.symm.trans htarget) (by decide)
    · exact hpassed hbroken

end ProxyForge.Config
