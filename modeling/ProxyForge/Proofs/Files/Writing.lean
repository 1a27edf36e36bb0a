import ProxyForge.Files.Tree
import Mathlib.Tactic.Common

/-!
# ProxyForge.Proofs.Files.Writing — what a write leaves of a file tree

`FileTree.node?` is the view of a tree that the later modules use: putting something at
a place changes that place alone (`node?_put_self`, `node?_put_of_ne`). Where a path leads
is a matter of directories (`SameDirs.locate`), and what is read there is what a write
would replace (`read_eq_ok_iff`). A file can only be put where there is no directory, so
that after a write every path leads where it led before, and one file has changed
(`replaced_of_write`).

A computation over trees that only looks at its tree is `FileTree.Reads`.
-/

namespace ProxyForge.FileTree

variable {t t' : FileTree} {place q dir : List String} {p : Path} {text : String}

/-! ## Places -/

theorem lookup_filter_of_ne (nodes : List (List String × FileNode)) (hq : q ≠ place) :
    (nodes.filter fun n => n.1 != place).lookup q = nodes.lookup q := by
  induction nodes with
  | nil => rfl
  | cons n nodes ih =>
    rcases n with ⟨other, node⟩
    by_cases hother : other = place
    · have hqother : (q == other) = false := by
        rw [hother]
        exact beq_false_of_ne hq
      rw [List.filter_cons_of_neg (by simpa using hother), ih, List.lookup_cons, hqother]
    · rw [List.filter_cons_of_pos (by simpa using hother), List.lookup_cons, List.lookup_cons, ih]

@[simp] theorem workingDir_put {node : FileNode} :
    (t.put place node).workingDir = t.workingDir := rfl

theorem node?_put_self {node : FileNode} (hplace : place ≠ []) :
    (t.put place node).node? place = some node := by
  simp [node?, put, hplace]

theorem node?_put_of_ne {node : FileNode} (hq : q ≠ place) :
    (t.put place node).node? q = t.node? q := by
  have hlookup : (t.put place node).nodes.lookup q = t.nodes.lookup q := by
    rw [put, List.lookup_cons, beq_false_of_ne hq]
    exact lookup_filter_of_ne t.nodes hq
  unfold node?
  rw [hlookup]

/-! ## Paths -/

/-- What succeeds has succeeded in its first part. -/
theorem bind_eq_ok {α β : Type} {x : Except OsError α} {f : α → Except OsError β} {b : β}
    (h : x >>= f = .ok b) : ∃ a, x = .ok a ∧ f a = .ok b := by
  cases x with
  | error e => cases h
  | ok a => exact ⟨a, rfl, h⟩

/-- Two trees with the same directories and the same working directory. Their files may
differ. -/
structure SameDirs (t t' : FileTree) : Prop where
  workingDir : t'.workingDir = t.workingDir
  directory_iff : ∀ q, t'.node? q = some .directory ↔ t.node? q = some .directory

/-- The root is a directory. -/
theorem ne_nil_of_node? (hnode : t.node? place ≠ some .directory) : place ≠ [] := by
  rintro rfl
  exact hnode rfl

namespace SameDirs

/-- Trees that differ at a place where no directory is. -/
theorem of_elsewhere (hworking : t'.workingDir = t.workingDir)
    (hnode : t.node? place ≠ some .directory) (hnode' : t'.node? place ≠ some .directory)
    (helsewhere : ∀ q, q ≠ place → t'.node? q = t.node? q) : SameDirs t t' := by
  refine ⟨hworking, fun q => ?_⟩
  by_cases hq : q = place
  · rw [hq]
    exact iff_of_false hnode' hnode
  · rw [helsewhere q hq]

theorem symm (h : SameDirs t t') : SameDirs t' t :=
  ⟨h.workingDir.symm, fun q => (h.directory_iff q).symm⟩

theorem trans {t'' : FileTree} (h : SameDirs t t') (h' : SameDirs t' t'') : SameDirs t t'' :=
  ⟨h'.workingDir.trans h.workingDir, fun q => (h'.directory_iff q).trans (h.directory_iff q)⟩

theorem enter {name : String} {next : List String} (h : SameDirs t t')
    (henter : t.enter dir name = .ok next) : t'.enter dir name = .ok next := by
  unfold FileTree.enter at henter ⊢
  -- the names "." and ".." are entered without a look at any place
  split_ifs at henter ⊢
  · exact henter
  · exact henter
  · split at henter
    · cases henter
    · cases henter
    · next hnode =>
      rw [(h.directory_iff _).2 hnode]
      exact henter

theorem walk {names last : List String} (h : SameDirs t t')
    (hwalk : t.walk dir names = .ok last) : t'.walk dir names = .ok last := by
  induction names generalizing dir with
  | nil => exact hwalk
  | cons name names ih =>
    simp only [FileTree.walk] at hwalk ⊢
    rcases bind_eq_ok hwalk with ⟨next, henter, hwalk⟩
    rw [h.enter henter]
    exact ih hwalk

/-- Only directories are looked at to follow a path. -/
theorem locate {l : Location} (h : SameDirs t t') (hlocate : t.locate p = .ok l) :
    t'.locate p = .ok l := by
  unfold FileTree.locate at hlocate ⊢
  by_cases hnul : p.text.toList.contains '\x00'
  · rw [if_pos hnul] at hlocate
    cases hlocate
  by_cases hlong : p.text.utf8ByteSize > maxPathSize
  · rw [if_neg hnul, if_pos hlong] at hlocate
    cases hlocate
  by_cases hempty : p.text = ""
  · rw [if_neg hnul, if_neg hlong, if_pos hempty] at hlocate
    cases hlocate
  rw [if_neg hnul, if_neg hlong, if_neg hempty] at hlocate ⊢
  simp only [h.workingDir] at hlocate ⊢
  -- the way starts at the same directory on both trees
  generalize (if p.isAbsolute then [] else t.workingDir) = start at hlocate ⊢
  cases hlast : (p.segments.filter (· ≠ "")).getLast? with
  | none =>
    rw [hlast] at hlocate
    exact hlocate
  | some last =>
    rw [hlast] at hlocate
    simp only at hlocate ⊢
    rcases bind_eq_ok hlocate with ⟨dir, hwalk, hlocate⟩
    rw [h.walk hwalk]
    -- a double dot at the end is entered like any other name before it
    by_cases hdots : last = "." ∨ last = ".."
    · simp only [if_pos hdots] at hlocate
      rcases bind_eq_ok hlocate with ⟨next, henter, hlocate⟩
      show (if last = "." ∨ last = ".." then _ else _) = _
      rw [if_pos hdots, h.enter henter]
      exact hlocate
    · simp only [if_neg hdots] at hlocate
      show (if last = "." ∨ last = ".." then _ else _) = _
      rw [if_neg hdots]
      exact hlocate

end SameDirs

/-! ## Files -/

variable {content : ByteArray}

/-- Where a write goes: to a name without a slash behind it, at which no directory is. -/
theorem target_eq_ok_iff :
    t.target p = .ok place ↔ ∃ dir name, t.locate p = .ok (.entry dir name false) ∧
      place = dir ++ [name] ∧ t.node? place ≠ some .directory := by
  constructor
  · intro htarget
    rcases bind_eq_ok htarget with ⟨l, hlocate, htarget⟩
    cases l with
    | directory dir => cases htarget
    | entry dir name slash =>
      simp only at htarget
      split_ifs at htarget with hrefused
      · cases htarget
        rcases not_or.1 hrefused with ⟨hslash, hnode⟩
        have hfalse : slash = false := by simpa using hslash
        exact ⟨dir, name, by rw [hlocate, hfalse], rfl, hnode⟩
  · rintro ⟨dir, name, hlocate, rfl, hnode⟩
    have hfree : ¬ (false = true ∨ t.node? (dir ++ [name]) = some .directory) :=
      not_or.2 ⟨Bool.false_ne_true, hnode⟩
    unfold target
    rw [hlocate]
    exact if_neg hfree

/-- In a tree with the same directories a path leads to the same file. -/
theorem SameDirs.target_iff (h : SameDirs t t') :
    t'.target p = .ok place ↔ t.target p = .ok place := by
  have hnode : t'.node? place ≠ some .directory ↔ t.node? place ≠ some .directory :=
    not_congr (h.directory_iff place)
  have hlocate : ∀ l, t'.locate p = .ok l ↔ t.locate p = .ok l :=
    fun l => ⟨h.symm.locate, h.locate⟩
  rw [target_eq_ok_iff, target_eq_ok_iff, hnode]
  simp only [hlocate]

/-- Paths to one file lead to one file in all trees with the same directories. -/
theorem SameDirs.target_eq_iff {p' : Path} (h : SameDirs t t') (htarget : t.target p = .ok place) :
    t'.target p' = t'.target p ↔ t.target p' = t.target p := by
  rw [htarget, h.target_iff.2 htarget]
  exact h.target_iff

/-- What is read is what is in the place to which a write would go. -/
theorem read_eq_ok_iff :
    t.read p = .ok content ↔
      ∃ place, t.target p = .ok place ∧ t.node? place = some (.file content) := by
  constructor
  · intro hread
    rcases bind_eq_ok hread with ⟨l, hlocate, hread⟩
    cases l with
    | directory dir => cases hread
    | entry dir name slash =>
      simp only at hread
      split at hread
      · cases hread
      · cases hread
      · next hnode =>
        cases slash with
        | true => cases hread
        | false =>
          cases hread
          exact ⟨_, target_eq_ok_iff.2 ⟨dir, name, hlocate, rfl, by simp [hnode]⟩, hnode⟩
  · rintro ⟨place, htarget, hnode⟩
    rcases target_eq_ok_iff.1 htarget with ⟨dir, name, hlocate, rfl, -⟩
    simp only [read, hlocate, bind, Except.bind, hnode]
    rfl

/-- Paths to one file read the same. -/
theorem read_congr {p' : Path} (htarget : t.target p' = t.target p) :
    t.read p' = .ok content ↔ t.read p = .ok content := by
  rw [read_eq_ok_iff, read_eq_ok_iff, htarget]

/-! ## Writing -/

theorem write_of_target (htarget : t.target p = .ok place) :
    t.write p text = .ok (t.put place (.file text.toUTF8)) := by
  rw [write, htarget]
  rfl

/-- A file where there is no directory leaves all directories. -/
theorem sameDirs_put_file (hnode : t.node? place ≠ some .directory) :
    SameDirs t (t.put place (.file content)) := by
  refine SameDirs.of_elsewhere rfl hnode ?_ fun q => node?_put_of_ne
  rw [node?_put_self (ne_nil_of_node? hnode)]
  exact nofun

/-- A file can only be put where there is no directory, so that all directories stay. -/
theorem sameDirs_put (htarget : t.target p = .ok place) :
    SameDirs t (t.put place (.file content)) := by
  rcases target_eq_ok_iff.1 htarget with ⟨dir, name, -, rfl, hnode⟩
  exact sameDirs_put_file hnode

/-- What was written is read back. -/
theorem read_write (htarget : t.target p = .ok place) :
    (t.put place (.file content)).read p = .ok content := by
  rcases target_eq_ok_iff.1 htarget with ⟨dir, name, -, rfl, -⟩
  rw [read_eq_ok_iff]
  exact ⟨_, (sameDirs_put htarget).target_iff.2 htarget, node?_put_self (by simp)⟩

/-- The second tree is the first one after the file that a path names was made to hold the
text. Nothing else differs. -/
structure Replaced (t t' : FileTree) (p : Path) (text : String) : Prop where
  sameDirs : SameDirs t t'
  read_eq : t'.read p = .ok text.toUTF8
  node?_eq : ∃ place, t.target p = .ok place ∧ ∀ q, q ≠ place → t'.node? q = t.node? q

theorem replaced_of_write (hwrite : t.write p text = .ok t') : Replaced t t' p text := by
  rcases bind_eq_ok hwrite with ⟨place, htarget, hput⟩
  cases hput
  exact ⟨sameDirs_put htarget, read_write htarget, place, htarget, fun q hq => node?_put_of_ne hq⟩

/-- A path that leads to another file reads the same as before, if it reads at all. -/
theorem Replaced.read_iff {p' : Path} (h : Replaced t t' p text)
    (hp' : t.target p' ≠ t.target p) : t'.read p' = .ok content ↔ t.read p' = .ok content := by
  rcases h.node?_eq with ⟨place, htarget, hnode⟩
  rw [read_eq_ok_iff, read_eq_ok_iff]
  refine exists_congr fun place' => ?_
  rw [h.sameDirs.target_iff]
  refine and_congr_right fun htarget' => ?_
  have hne : place' ≠ place := by
    rintro rfl
    exact hp' (htarget'.trans htarget.symm)
  rw [hnode place' hne]

/-! ## Writes that are refused

An operating system can refuse a write for reasons that are in no tree, such as missing
rights or a full disk. What it refuses can hang on anything.
-/

/-- The writes that are refused, with the cause. -/
abbrev Refusals := FileTree → Path → String → Option OsError

/-- The tree after the text became the content of a file, unless that is refused. -/
def writeUnder (refuse : Refusals) (t : FileTree) (p : Path) (text : String) :
    Except OsError FileTree :=
  match refuse t p text with
  | some e => .error e
  | none => t.write p text

theorem writeUnder_none (t : FileTree) (p : Path) (text : String) :
    t.writeUnder (fun _ _ _ => none) p text = t.write p text := rfl

theorem write_of_writeUnder {refuse : Refusals} (hwrite : t.writeUnder refuse p text = .ok t') :
    t.write p text = .ok t' := by
  unfold writeUnder at hwrite
  split at hwrite
  · cases hwrite
  · exact hwrite

/-- Computations over trees under a system that refuses writes. -/
abbrev Guarded := ReaderT Refusals (StateM FileTree)

instance : FileAccess Guarded where
  workingDir := fun _ => FileAccess.workingDir
  isFile p := fun _ => FileAccess.isFile p
  read p := fun _ => FileAccess.read p
  write p text := fun refuse => commit (·.writeUnder refuse p text)
  prepare p := fun _ => FileAccess.prepare p
  append p text := fun _ => FileAccess.append p text

theorem guarded_run_bind {α β : Type} (refuse : Refusals) (x : Guarded α) (f : α → Guarded β)
    (t : FileTree) :
    ((x >>= f).run refuse).run t =
      ((f ((x.run refuse).run t).1).run refuse).run ((x.run refuse).run t).2 := rfl

theorem guarded_run_write (refuse : Refusals) (p : Path) (text : String) (t : FileTree) :
    ((FileAccess.write p text : Guarded (Except OsError Unit)).run refuse).run t =
      match t.writeUnder refuse p text with
      | .ok t' => (.ok (), t')
      | .error e => (.error e, t) := rfl

/-! ## Computations over trees -/

theorem run_bind {α β : Type} (x : StateM FileTree α) (f : α → StateM FileTree β) (t : FileTree) :
    (x >>= f).run t = (f (x.run t).1).run (x.run t).2 := rfl

theorem run_write (p : Path) (text : String) (t : FileTree) :
    (FileAccess.write p text : StateM FileTree (Except OsError Unit)).run t =
      match t.write p text with
      | .ok t' => (.ok (), t')
      | .error e => (.error e, t) := rfl

/-- The computation leaves every tree as it is. -/
def Reads {α : Type} (x : StateM FileTree α) : Prop := ∀ t, (x.run t).2 = t

theorem Reads.bind {α β : Type} {x : StateM FileTree α} {f : α → StateM FileTree β} (hx : Reads x)
    (hf : ∀ a, Reads (f a)) : Reads (x >>= f) := by
  intro t
  rw [run_bind, hx t]
  exact hf _ t

end ProxyForge.FileTree
