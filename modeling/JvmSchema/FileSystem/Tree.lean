import JvmSchema.FilePath
import JvmSchema.FileSystem

/-!
# Trees of files

A `FileTree` lists files and directories by their segments from the root. Paths are followed segment
by segment: through a directory only, `..` to the directory above, and from the working directory
unless they are absolute. `place` adds a node at a path and makes the directories on the way.
-/

set_option autoImplicit false
set_option relaxedAutoImplicit false

namespace JvmSchema

/-- What a path leads to. -/
inductive FileNode
  | directory
  | file (content : ByteArray)

/-- Files and directories, listed by their segments from the root, and a working directory. The
directories on the way to either are there as well. -/
structure FileTree where
  workingDirectory : List String
  nodes : List (List String × FileNode)

namespace FileTree

/-- The greatest length of a segment in bytes. -/
def segmentLimit : Nat := 255

/-- The length in bytes that a path must stay below. -/
def pathLimit : Nat := 4096

/-- The node with the given segments. -/
def node? (tree : FileTree) (segments : List String) : Option FileNode :=
  match tree.nodes.find? fun node ↦ node.1 = segments with
  | some (_, node) => some node
  | none =>
    if segments.isPrefixOf tree.workingDirectory ∨
        tree.nodes.any fun node ↦ segments.isPrefixOf node.1 then
      some .directory
    else none

/-- The directory that a path is followed from. -/
def origin (tree : FileTree) (path : String) : List String :=
  if FilePath.isAbsolute path then [] else tree.workingDirectory

/-- The place that a segment leads to from a directory. -/
def step (directory : List String) (segment : String) : List String :=
  if segment = "" ∨ segment = "." then directory
  else if segment = ".." then directory.dropLast
  else directory ++ [segment]

/-- The places that segments lead to one after another. -/
def places (directory : List String) : List String → List (List String)
  | [] => []
  | segment :: rest => step directory segment :: places (step directory segment) rest

/-- The tree with a node at a path. Every place on the way there becomes a directory, one that the
path leaves again by `..` as well. -/
def place (tree : FileTree) (path : String) (node : FileNode) : FileTree :=
  match (places (tree.origin path) (FilePath.segments path)).reverse with
  | [] => tree
  | target :: passed =>
    { tree with nodes := (target, node) :: passed.map (·, .directory) ++ tree.nodes }

/-- Follows segments from a directory. -/
def follow (tree : FileTree) (directory : List String) : List String → Except FileError FileNode
  | [] => .ok .directory
  | segment :: rest =>
    if segment = "" ∨ segment = "." ∨ segment = ".." then tree.follow (step directory segment) rest
    else if segmentLimit < segment.utf8ByteSize then .error .nameTooLong
    else
      match tree.node? (step directory segment), rest with
      | none, _ => .error .missing
      | some .directory, rest => tree.follow (step directory segment) rest
      | some (.file content), [] => .ok (.file content)
      | some (.file _), _ :: _ => .error .notDirectory

/-- Follows a path. -/
def resolve (tree : FileTree) (path : String) : Except FileError FileNode :=
  if path = "" then .error .missing
  else if '\x00' ∈ path.toList then .error .nullInPath
  else if pathLimit ≤ path.utf8ByteSize then .error .nameTooLong
  else tree.follow (tree.origin path) (FilePath.segments path)

/-- The tree as a run sees it. -/
def fileSystem (tree : FileTree) : FileSystem where
  read path := do
    match ← tree.resolve path with
    | .file content => return content
    | .directory => throw .isDirectory
  isFile path :=
    match tree.resolve path with
    | .ok (.file _) => true
    | _ => false

end FileTree

end JvmSchema
