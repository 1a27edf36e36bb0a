import ProxyForge.Proofs.Files.Writing

/-!
# ProxyForge.Proofs.Files.Reading — what a path reads in two trees

A path names a regular file when it leads to a place where one is (`HoldsFile`). In two
trees with the same directories that agree at this place, the path names a file in both or
in neither, and reads the same (`SameDirs.holdsFile_iff`, `SameDirs.readUnder_eq`).

A file that is there need not give its content: what a system does not let the program read
is a parameter of the run (`Locks`).
-/

namespace ProxyForge.FileTree

variable {t t' : FileTree} {place q : List String} {p : Path} {content : ByteArray}

/-! ## Files that are removed -/

/-- The tree without what is at a place. -/
def erase (t : FileTree) (place : List String) : FileTree :=
  { t with nodes := t.nodes.filter fun n => n.1 != place }

theorem node?_erase_of_ne (hq : q ≠ place) : (t.erase place).node? q = t.node? q := by
  unfold node? erase
  rw [lookup_filter_of_ne t.nodes hq]

theorem node?_erase_self (hplace : place ≠ []) : (t.erase place).node? place = none := by
  rw [node?, if_neg hplace, List.lookup_eq_none_iff]
  intro n hn
  rcases List.mem_filter.1 hn with ⟨-, hother⟩
  exact bne_iff_ne.2 (bne_iff_ne.1 hother).symm

/-- To remove what is no directory leaves all directories. -/
theorem sameDirs_erase (hnode : t.node? place ≠ some .directory) : SameDirs t (t.erase place) := by
  refine SameDirs.of_elsewhere rfl hnode ?_ fun q => node?_erase_of_ne
  rw [node?_erase_self (ne_nil_of_node? hnode)]
  exact nofun

/-! ## Regular files -/

/-- The path leads to a place where a regular file is. -/
def HoldsFile (t : FileTree) (p : Path) : Prop :=
  ∃ place content, t.target p = .ok place ∧ t.node? place = some (.file content)

theorem isFile_iff : t.isFile p = true ↔ t.HoldsFile p := by
  unfold isFile
  constructor
  · intro hfile
    split at hfile
    · next dir name hlocate =>
      split at hfile
      · next content hnode =>
        exact ⟨_, content, target_eq_ok_iff.2 ⟨dir, name, hlocate, rfl, by simp [hnode]⟩, hnode⟩
      · cases hfile
    · cases hfile
  · rintro ⟨place, content, htarget, hnode⟩
    rcases target_eq_ok_iff.1 htarget with ⟨dir, name, hlocate, rfl, -⟩
    simp only [hlocate, hnode]

/-- A name at which a directory is names no file. -/
theorem not_holdsFile_of_directory {dir : List String} {name : String} {slash : Bool}
    (hlocate : t.locate p = .ok (.entry dir name slash))
    (hnode : t.node? (dir ++ [name]) = some .directory) : ¬ t.HoldsFile p := by
  rintro ⟨place, content, htarget, hfile⟩
  rcases target_eq_ok_iff.1 htarget with ⟨dir', name', hlocate', rfl, hfree⟩
  cases hlocate.symm.trans hlocate'
  exact hfree hnode

/-! ## Files that cannot be read -/

/-- The places of files that cannot be read, with the cause. -/
abbrev Locks := List String → Option OsError

/-- The content of the file that a path names, unless that cannot be read. -/
def readUnder (locks : Locks) (t : FileTree) (p : Path) : Except OsError ByteArray :=
  match t.target p with
  | .error _ => t.read p
  | .ok place => (locks place).elim (t.read p) .error

theorem readUnder_none (t : FileTree) (p : Path) : t.readUnder (fun _ => none) p = t.read p := by
  unfold readUnder
  split <;> rfl

theorem readUnder_of_file {locks : Locks} (htarget : t.target p = .ok place)
    (hnode : t.node? place = some (.file content)) :
    t.readUnder locks p = (locks place).elim (.ok content) .error := by
  have hread : t.read p = .ok content := read_eq_ok_iff.2 ⟨place, htarget, hnode⟩
  simp only [readUnder, htarget, hread]

/-- Computations over trees some of whose files cannot be read. -/
abbrev Locked := ReaderT Locks (StateM FileTree)

instance : FileAccess Locked where
  workingDir := fun _ => FileAccess.workingDir
  isFile p := fun _ => FileAccess.isFile p
  read p := fun locks => return (← get).readUnder locks p
  write p text := fun _ => FileAccess.write p text
  prepare p := fun _ => FileAccess.prepare p
  append p text := fun _ => FileAccess.append p text

theorem locked_run_bind {α β : Type} (locks : Locks) (x : Locked α) (f : α → Locked β)
    (t : FileTree) :
    ((x >>= f).run locks).run t =
      ((f ((x.run locks).run t).1).run locks).run ((x.run locks).run t).2 := rfl

theorem locked_run_read (locks : Locks) (p : Path) (t : FileTree) :
    ((FileAccess.read p : Locked (Except OsError ByteArray)).run locks).run t =
      (t.readUnder locks p, t) := rfl

/-! ## Two trees with the same directories -/

/-- Whether a path names a file is decided at the place that it leads to. -/
theorem SameDirs.holdsFile_iff (h : SameDirs t t')
    (hnode : ∀ place, t.target p = .ok place → t'.node? place = t.node? place) :
    t'.HoldsFile p ↔ t.HoldsFile p := by
  unfold HoldsFile
  refine exists_congr fun place => exists_congr fun content => ?_
  rw [h.target_iff]
  exact and_congr_right fun htarget => by rw [hnode place htarget]

/-- What a path to a file reads is decided at the place that it leads to. -/
theorem SameDirs.readUnder_eq {locks locks' : Locks} (h : SameDirs t t') (hfile : t.HoldsFile p)
    (hplace : ∀ place, t.target p = .ok place →
      t'.node? place = t.node? place ∧ locks' place = locks place) :
    t'.readUnder locks' p = t.readUnder locks p := by
  rcases hfile with ⟨place, content, htarget, hnode⟩
  rcases hplace place htarget with ⟨hsame, hlocks⟩
  rw [readUnder_of_file htarget hnode, readUnder_of_file (h.target_iff.2 htarget)
    (hsame.trans hnode), hlocks]

end ProxyForge.FileTree
