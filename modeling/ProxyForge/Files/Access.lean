import ProxyForge.Path

/-!
# ProxyForge.Files.Access — what the program asks of a file system

Everything that reads or writes files is written against `FileAccess`, so that
one definition runs on a real file system and on the tree of
`ProxyForge.Files.Tree`. Errors are the causes that an operating system
reports; their wording is in `OsError.message`.
-/

namespace ProxyForge

/-- Why the operating system refuses to open a file. -/
inductive OsError where
  | notFound
  | notADirectory
  | isADirectory
  | nameTooLong
  /-- The path holds a character that no file name can hold. -/
  | invalidName
  /-- Any other cause: its number, kind and message. -/
  | other (code : Nat) (kind text : String)
deriving DecidableEq, Repr

namespace OsError

/-- The number, kind and message of a cause that the operating system numbers. -/
def parts? : OsError → Option (Nat × String × String)
  | notFound => some (2, "NotFound", "No such file or directory")
  | notADirectory => some (20, "NotADirectory", "Not a directory")
  | isADirectory => some (21, "IsADirectory", "Is a directory")
  | nameTooLong => some (36, "InvalidFilename", "File name too long")
  | invalidName => none
  | other code kind text => some (code, kind, text)

/-- The message for a path that holds a NUL. -/
def nulMessage : String := "file name contained an unexpected NUL byte"

/-- The text of the error. -/
def message (e : OsError) : String :=
  match e.parts? with
  | some (code, _, text) => text ++ " (os error " ++ toString code ++ ")"
  | none => nulMessage

/-- The error with all its parts, as a failing program ends with it. -/
def details (e : OsError) : String :=
  match e.parts? with
  | some (code, kind, text) =>
    "Os \x7b code: " ++ toString code ++ ", kind: " ++ kind ++ ", message: \"" ++ text ++ "\" \x7d"
  | none => "Error \x7b kind: InvalidInput, message: \"" ++ nulMessage ++ "\" \x7d"

end OsError

/-- The file operations of the program. A write replaces the whole file or fails
without effect. -/
class FileAccess (m : Type → Type) where
  /-- The working directory, from the root. -/
  workingDir : m Path
  /-- Whether the path names a regular file. -/
  isFile : Path → m Bool
  /-- The content of a file. -/
  read : Path → m (Except OsError ByteArray)
  /-- Makes the text the content of a file. -/
  write : Path → String → m (Except OsError Unit)
  /-- Makes sure that a file can be appended to, creating it and its directories. -/
  prepare : Path → m (Except OsError Unit)
  /-- Appends the text to a file. -/
  append : Path → String → m (Except OsError Unit)

end ProxyForge
