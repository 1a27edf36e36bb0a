import ProxyForge.Files.Access

/-!
# ProxyForge.Files.Tree — a file system as a value

A `FileTree` holds directories and files by the names that lead to them from
the root, and a working directory. `FileTree.locate` follows a path to the
place it names: every name before the last must lead to a directory, and only
here are double dots resolved.

The instance of `FileAccess` reads and writes a tree that is the state of a
computation, with the errors that an operating system gives.
-/

namespace ProxyForge

/-- What is at a place. -/
inductive FileNode where
  | directory
  | file (content : ByteArray)

/-- Two files are the same when they have the same bytes. -/
instance : DecidableEq FileNode
  | .directory, .directory => isTrue rfl
  | .directory, .file _ => isFalse nofun
  | .file _, .directory => isFalse nofun
  | .file a, .file b =>
    match ByteArray.instDecidableEq a b with
    | isTrue h => isTrue (congrArg FileNode.file h)
    | isFalse h => isFalse fun heq => h (FileNode.file.inj heq)

/-- Directories and files by their names from the root. The root is always there. -/
structure FileTree where
  workingDir : List String := []
  nodes : List (List String × FileNode) := []
deriving DecidableEq

/-- Where a path leads: to a directory itself, or to a name in a directory, which
a slash at the end says must be one too. -/
inductive Location where
  | directory (dir : List String)
  | entry (dir : List String) (name : String) (slash : Bool)
deriving DecidableEq, Repr

namespace FileTree

/-- What is at a place, by its names from the root. -/
def node? (t : FileTree) (place : List String) : Option FileNode :=
  if place = [] then some .directory else t.nodes.lookup place

/-- Puts something at a place. -/
def put (t : FileTree) (place : List String) (node : FileNode) : FileTree :=
  { t with nodes := (place, node) :: t.nodes.filter fun n => n.1 != place }

/-! ## Paths to places -/

/-- The most bytes that a name can have. -/
def maxNameSize : Nat := 255

/-- The most bytes that a path can have. -/
def maxPathSize : Nat := 4095

/-- The directory that a name leads to from a directory. -/
def enter (t : FileTree) (dir : List String) (name : String) : Except OsError (List String) :=
  if name = "." then .ok dir
  else if name = ".." then .ok dir.dropLast
  else if name.utf8ByteSize > maxNameSize then .error .nameTooLong
  else
    match t.node? (dir ++ [name]) with
    | none => .error .notFound
    | some (.file _) => .error .notADirectory
    | some .directory => .ok (dir ++ [name])

/-- The directory that names lead to from a directory. -/
def walk (t : FileTree) (dir : List String) : List String → Except OsError (List String)
  | [] => .ok dir
  | name :: rest => do t.walk (← t.enter dir name) rest

/-- The place that a path leads to. -/
def locate (t : FileTree) (p : Path) : Except OsError Location :=
  if p.text.toList.contains '\x00' then .error .invalidName
  else if p.text.utf8ByteSize > maxPathSize then .error .nameTooLong
  else if p.text = "" then .error .notFound
  else
    let names := p.segments.filter (· ≠ "")
    let start := if p.isAbsolute then [] else t.workingDir
    match names.getLast? with
    | none => .ok (.directory start)
    | some last => do
      let dir ← t.walk start names.dropLast
      if last = "." ∨ last = ".." then return .directory (← t.enter dir last)
      else if last.utf8ByteSize > maxNameSize then throw .nameTooLong
      else return .entry dir last p.endsInSlash

/-! ## Files -/

/-- Whether a path names a regular file. -/
def isFile (t : FileTree) (p : Path) : Bool :=
  match t.locate p with
  | .ok (.entry dir name false) =>
    match t.node? (dir ++ [name]) with
    | some (.file _) => true
    | _ => false
  | _ => false

/-- The content of the file that a path names. -/
def read (t : FileTree) (p : Path) : Except OsError ByteArray := do
  match ← t.locate p with
  | .directory _ => throw .isADirectory
  | .entry dir name slash =>
    match t.node? (dir ++ [name]) with
    | none => throw .notFound
    | some .directory => throw .isADirectory
    | some (.file content) => if slash then throw .notADirectory else return content

/-- The place of the file that writing to a path creates or replaces. -/
def target (t : FileTree) (p : Path) : Except OsError (List String) := do
  match ← t.locate p with
  | .directory _ => throw .isADirectory
  | .entry dir name slash =>
    let place := dir ++ [name]
    if slash ∨ t.node? place = some .directory then throw .isADirectory else return place

/-- The tree after the text became the content of the file that a path names. -/
def write (t : FileTree) (p : Path) (text : String) : Except OsError FileTree := do
  return t.put (← t.target p) (.file text.toUTF8)

/-- The tree after the text was appended to the file that a path names. -/
def append (t : FileTree) (p : Path) (text : String) : Except OsError FileTree := do
  let place ← t.target p
  match t.node? place with
  | some (.file content) => return t.put place (.file (content ++ text.toUTF8))
  | _ => return t.put place (.file text.toUTF8)

/-- The tree in which names lead from a directory to directories, created where
there is nothing. -/
def createDirs (t : FileTree) (dir : List String) : List String → Except OsError FileTree
  | [] => .ok t
  | name :: rest =>
    match t.enter dir name with
    | .ok dir => t.createDirs dir rest
    | .error .notFound => (t.put (dir ++ [name]) .directory).createDirs (dir ++ [name]) rest
    | .error e => .error e

/-- The tree in which the file that a path names can be appended to. Its
directories are created when it cannot be opened without them. -/
def prepare (t : FileTree) (p : Path) : Except OsError FileTree :=
  match t.append p "" with
  | .ok t => .ok t
  | .error _ => do
    let dir := p.parent?.getD ⟨""⟩
    let start := if p.isAbsolute then [] else t.workingDir
    let t ← t.createDirs start (dir.segments.filter (· ≠ ""))
    t.append p ""

/-- Goes on with the tree that an operation gave; an operation that failed leaves
the tree as it was. -/
def commit (op : FileTree → Except OsError FileTree) : StateM FileTree (Except OsError Unit) :=
  fun t =>
    match op t with
    | .ok t => (.ok (), t)
    | .error e => (.error e, t)

instance : FileAccess (StateM FileTree) where
  workingDir := return ⟨"/" ++ "/".intercalate (← get).workingDir⟩
  isFile p := return (← get).isFile p
  read p := return (← get).read p
  write p text := commit (·.write p text)
  prepare p := commit (·.prepare p)
  append p text := commit (·.append p text)

end FileTree

end ProxyForge
