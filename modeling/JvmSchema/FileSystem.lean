/-!
# Files as a run sees them

A run reads files by path. A `FileSystem` gives the content or the fault for every path, and does
not change during the run.
-/

set_option autoImplicit false
set_option relaxedAutoImplicit false

namespace JvmSchema

/-- Why a file could not be read. -/
inductive FileError
  | missing
  | notDirectory
  | isDirectory
  | nameTooLong
  | nullInPath
  | notText
  | other (message : String)
  deriving DecidableEq, Repr

/-- The wording of a fault. -/
def FileError.message : FileError → String
  | .missing => "No such file or directory (os error 2)"
  | .notDirectory => "Not a directory (os error 20)"
  | .isDirectory => "Is a directory (os error 21)"
  | .nameTooLong => "File name too long (os error 36)"
  | .nullInPath => "file name contained an unexpected NUL byte"
  | .notText => "stream did not contain valid UTF-8"
  | .other message => message

/-- The content or the fault for every path, and which paths are those of files. -/
structure FileSystem where
  read : String → Except FileError ByteArray
  isFile : String → Bool

/-- The content of a file as text. -/
def FileSystem.readText (files : FileSystem) (path : String) : Except FileError String := do
  match String.fromUTF8? (← files.read path) with
  | some text => return text
  | none => throw .notText

end JvmSchema
