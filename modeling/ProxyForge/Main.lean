import ProxyForge.CommandLine.Run

/-!
# ProxyForge.Main — the program on a real file system

The outer layer: it hands the arguments, the environment and the files of the
process to `CommandLine.run` and prints what comes back.
-/

namespace ProxyForge

/-- The cause behind a failed file operation. -/
def OsError.ofFailure : IO.Error → OsError
  | .noFileOrDirectory _ _ _ => .notFound
  | .inappropriateType _ code details => ofCode code "Uncategorized" details
  | .permissionDenied _ code details => ofCode code "PermissionDenied" details
  | .invalidArgument _ code details => ofCode code "InvalidInput" details
  | .resourceExhausted _ code details => ofCode code "StorageFull" details
  | .otherError code details => ofCode code "Uncategorized" details
  | e => .other 0 "Uncategorized" (toString e)
where
  /-- The cause with a number of the operating system, which some operations report
  with its sign turned. -/
  ofCode (code : UInt32) (kind details : String) : OsError :=
    let number := if code.toNat < Nat.pow 2 31 then code.toNat else (-code).toNat
    if number = 2 then .notFound
    else if number = 20 then .notADirectory
    else if number = 21 then .isADirectory
    else if number = 36 then .nameTooLong
    else .other number kind details

/-- Runs a file operation on a path and catches the cause when it fails. -/
def attempt {α : Type} (p : Path) (op : IO α) : IO (Except OsError α) := do
  if p.text.toList.contains '\x00' then return .error .invalidName
  try return .ok (← op)
  catch e => return .error (.ofFailure e)

/-- Appends a text to a file, which is created if need be. -/
def appendText (p : Path) (text : String) : IO Unit := do
  let handle ← IO.FS.Handle.mk p.text .append
  handle.putStr text

instance : FileAccess IO where
  workingDir := return ⟨(← IO.currentDir).toString⟩
  isFile p := do
    let here ← IO.currentDir
    try return (← (here / p.text).metadata).type == .file
    catch _ => return false
  read p := attempt p (IO.FS.readBinFile p.text)
  write p text := attempt p (IO.FS.writeBinFile p.text text.toUTF8)
  prepare p := attempt p do
    try appendText p ""
    catch _ =>
      IO.FS.createDirAll (p.parent?.getD ⟨"."⟩).text
      appendText p ""
  append p text := attempt p (appendText p text)

/-- The variables that the program looks at. -/
def watchedVariables : List String :=
  [ versionVariable, includeDirsVariable, libraryVariable,
    LogSettings.levelVariable, LogSettings.fileVariable, LogSettings.jsonVariable,
    LogSettings.spansVariable, LogFilter.directivesVariable ]

/-- The values of the variables that are set. -/
def processEnvironment : IO Environment :=
  watchedVariables.filterMapM fun name => do
    return (← IO.getEnv name).map fun value => (name, value)

end ProxyForge

/-- Runs the program with the given arguments. -/
def main (args : List String) : IO UInt32 := do
  let ending ← ProxyForge.CommandLine.run "guile-shim" args (← ProxyForge.processEnvironment)
  IO.print ending.stdout
  IO.eprint ending.stderr
  return ending.exit.toUInt32
