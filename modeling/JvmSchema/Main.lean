import JvmSchema.CommandLine

/-!
# The program

Reads the files that a run needs, runs it on what was read, and prints the outcome.
-/

set_option autoImplicit false
set_option relaxedAutoImplicit false

namespace JvmSchema.Main

/-- The number of a system error, which may have been given as its negative. -/
def systemCode (code : UInt32) : UInt32 :=
  if code < 0x80000000 then code else 0 - code

/-- The fault behind a failed system call. -/
def fileError (error : IO.Error) : FileError :=
  match error with
  | .noFileOrDirectory _ _ _ => .missing
  | .permissionDenied _ _ _ => .other "Permission denied (os error 13)"
  | .inappropriateType _ code _ =>
    if systemCode code = 20 then .notDirectory
    else if systemCode code = 21 then .isDirectory
    else .other (toString error)
  | error => .other (toString error)

/-- The content of a file, or why it cannot be read. -/
def observe (path : String) : IO (Except FileError ByteArray) := do
  try
    return .ok (← IO.FS.readBinFile path)
  catch error =>
    return .error (fileError error)

/-- Whether a path leads to a regular file, readable or not. -/
def isRegular (path : String) : IO Bool := do
  try
    return (← (System.mkFilePath [path]).metadata).type == .file
  catch _ => return false

/-- The files at the given paths, as they are now. -/
def snapshot (paths : List String) : IO FileSystem := do
  let observed ← paths.mapM fun path ↦ return (path, ← observe path)
  let regular ← paths.filterM isRegular
  return {
    read := fun path ↦ (observed.lookup path).getD (.error .missing)
    isFile := fun path ↦ path ∈ regular }

/-- The paths of a run's configuration and tables. -/
def pathsOf (options : Options) (directory : String) : IO (List String) := do
  let config := options.config.getD (FilePath.join directory Config.fileName)
  let files ← snapshot [config]
  match (Config.discover files options.config directory).result with
  | .ok found => return config :: found.types ++ options.types
  | .error _ => return [config]

end JvmSchema.Main

/-- Runs the program on the arguments of the process. -/
def main (arguments : List String) : IO UInt32 := do
  let directory := (← IO.currentDir).toString
  let files ← match JvmSchema.CommandLine.parse arguments with
    | .ok options => JvmSchema.Main.snapshot (← JvmSchema.Main.pathsOf options directory)
    | .error _ => pure { read := fun _ ↦ .error .missing, isFile := fun _ ↦ false }
  let outcome := JvmSchema.CommandLine.execute files directory arguments
  IO.print outcome.output
  IO.eprint outcome.errors
  return outcome.code.toUInt32
