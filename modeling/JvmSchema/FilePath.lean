/-!
# File paths

A path is text with slashes between its segments. It is taken apart only to find the directory that
holds a file: repeated slashes and segments `.` count for nothing there, except for a `.` at the
start of a relative path. `join` puts paths together without changing either.
-/

set_option autoImplicit false
set_option relaxedAutoImplicit false

namespace JvmSchema.FilePath

/-- The text between slashes. -/
def segmentsOf : List Char → List (List Char)
  | [] => [[]]
  | '/' :: rest => [] :: segmentsOf rest
  | char :: rest =>
    match segmentsOf rest with
    | [] => [[char]]
    | segment :: more => (char :: segment) :: more

/-- The segments of a path; the first of an absolute path is empty. -/
def segments (path : String) : List String :=
  (segmentsOf path.toList).map String.ofList

/-- Whether a path starts at the root. -/
def isAbsolute (path : String) : Bool :=
  path.toList.head? = some '/'

/-- Whether a segment after the first leads anywhere. -/
def isProper (segment : String) : Bool :=
  segment ≠ "" ∧ segment ≠ "."

/-- The segments after the root, each with whether it leads anywhere. -/
def markedSegments (path : String) : List (String × Bool) :=
  match segments path with
  | [] => []
  | first :: rest =>
    let marked := rest.map fun segment ↦ (segment, isProper segment)
    if isAbsolute path then marked else (first, first ≠ "") :: marked

/-- The components of a path: the root, if it starts there, and the segments that lead anywhere. -/
def components (path : String) : List String :=
  let names := ((markedSegments path).filter Prod.snd).map Prod.fst
  if isAbsolute path then "/" :: names else names

/-- The path without its last component; none for the root and for the empty path. -/
def parent? (path : String) : Option String :=
  match (markedSegments path).reverse.dropWhile fun segment ↦ !segment.2 with
  | [] => none
  | _ :: earlier =>
    let kept := (earlier.dropWhile fun segment ↦ !segment.2).reverse.map Prod.fst
    some ((if isAbsolute path then "/" else "") ++ "/".intercalate kept)

/-- A path taken from a base directory; an absolute path is taken from the root. -/
def join (base path : String) : String :=
  if isAbsolute path then path
  else if base = "" ∨ base.toList.getLast? = some '/' then base ++ path
  else base ++ "/" ++ path

end JvmSchema.FilePath
