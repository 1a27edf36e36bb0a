import ProxyForge.Text.Split

/-!
# ProxyForge.Path — paths as text

A path is the text that names a file, kept as it was given; nothing here looks
at a file system. Slashes separate names. Repeated slashes, a slash at the end
and single dots name nothing, except a dot at the very start, and double dots
are names like any other: `a/..` has the parent `a`.
-/

namespace ProxyForge

/-- A path, as it was given. -/
structure Path where
  text : String
deriving DecidableEq, Repr

namespace Path

/-- The parts of the path between slashes, the empty ones included. -/
def segments (p : Path) : List String := Text.splitString '/' p.text

/-- Whether the path starts at the root. -/
def isAbsolute (p : Path) : Bool := p.text.toList.head? == some '/'

/-- Whether the path ends with a slash. -/
def endsInSlash (p : Path) : Bool := p.text.toList.getLast? == some '/'

/-- The path of `name` as seen from the directory `dir`. An absolute name stands
for itself. -/
def join (dir name : Path) : Path :=
  if name.isAbsolute then name
  else if dir.text = "" ∨ dir.endsInSlash then ⟨dir.text ++ name.text⟩
  else ⟨dir.text ++ "/" ++ name.text⟩

/-- Drops the segments that name nothing from the end of a path; the segments come
in reverse order. -/
def dropBlank : List String → List String
  | [] => []
  | [first] => if first = "" then [] else [first]
  | s :: rest => if s = "" ∨ s = "." then dropBlank rest else s :: rest

/-- The path up to the last name, without that name. A path without names has no
parent. -/
def parent? (p : Path) : Option Path :=
  match dropBlank p.segments.reverse with
  | [] => none
  | _ :: rest =>
    match dropBlank rest with
    | [] => some ⟨if p.isAbsolute then "/" else ""⟩
    | kept => some ⟨Text.joinStrings '/' kept.reverse⟩

/-- The last name of the path, unless it is a dot or a double dot. -/
def fileName? (p : Path) : Option String :=
  match dropBlank p.segments.reverse with
  | [] => none
  | s :: _ => if s = "." ∨ s = ".." then none else some s

end Path

end ProxyForge
