import ProxyForge.Compiler.Inclusion
import ProxyForge.Compiler.Source
import ProxyForge.Files.Tree

/-!
# ProxyForge.Compiler.Basic — compiling a file into a library

`CCompiler` is what the build step asks of a compiler. On a tree of files a source
compiles when it can be read with all it includes and breaks no rule of the
language that a compiler insists on; the library then holds its functions.

What a file is follows from the end of its name: a header compiles into nothing that
can be linked to, and anything but headers and sources does not compile.
-/

namespace ProxyForge

/-- A C compiler: compiles a file with the given include directories, and gives the
global functions of the library made from it; `none` when that fails. -/
class CCompiler (m : Type → Type) where
  compile : Path → List Path → m (Option (List String))

namespace Compiler

/-- The functions of the library made from a source, with directories to search for
headers; `none` when it does not compile. -/
def symbols? (s : Sources) (source : Path) : Option (List String) := do
  return (← Analysis.ofTokens? (← s.tokens? source)).symbols

/-- How many bytes the name of an object file has besides the name that it is for. -/
def objectNameExtra : Nat := "0123456789abcdef-.o".utf8ByteSize

/-- Whether a compiler can be told to compile a file, and the object file for it can be
named. -/
def isNameable (source : Path) : Bool :=
  let name := (source.fileName?.getD "").toList
  let stem := (name.reverse.dropWhile (· ≠ '.')).drop 1
  !source.text.startsWith "-"
    && (String.ofList stem).utf8ByteSize + objectNameExtra ≤ FileTree.maxNameSize

/-- The directories that are searched: a dash in their place takes those before it out
of the search. -/
def searched (includeDirs : List Path) : List Path :=
  let dirs := (includeDirs.reverse.takeWhile (·.text ≠ "-")).reverse
  (dirs.filter (·.text ≠ "")).eraseDups

/-- The files of a tree that sources can come from. -/
def sourcesIn (t : FileTree) (includeDirs : List Path) : Sources where
  dirs := searched includeDirs
  read p := if t.isFile p then (t.read p).toOption else none

/-- Whether a path is read as the name of a file with further arguments: it starts with
an at sign, and something has the name behind it. -/
def isArgumentFile (t : FileTree) (p : Path) : Bool :=
  match p.text.toList with
  | '@' :: name =>
    match t.read ⟨String.ofList name⟩ with
    | .ok _ | .error .isADirectory => true
    | .error _ => false
  | _ => false

/-- What compiling a file of a tree gives. -/
def compileIn? (t : FileTree) (source : Path) (includeDirs : List Path) : Option (List String) :=
  let sources := sourcesIn t includeDirs
  if !isNameable source ∨ (source :: includeDirs).any (isArgumentFile t) then none
  else if source.text.endsWith ".c" then symbols? sources source
  else if source.text.endsWith ".h" then (symbols? sources source).map fun _ => []
  else none

end Compiler

instance : CCompiler (StateM FileTree) where
  compile source includeDirs := return Compiler.compileIn? (← get) source includeDirs

end ProxyForge
