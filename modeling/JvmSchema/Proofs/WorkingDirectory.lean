import JvmSchema.FileSystem.Tree
import JvmSchema.Proofs.PathNames

/-!
# Files seen from a working directory

A run opens a relative path from its working directory (`seenFrom`). Where a path leads does not
depend on its text alone: slashes and dots between names lead nowhere, and at the end they ask for a
directory. `FollowsNames` says so of what is read by some paths, and `IsDirectory` that a directory
is not read as a file.

Trees of files are read in this way (`followsNames_fileSystem`, `isDirectory_fileSystem`), by paths
whose text is not too long.
-/

set_option autoImplicit false
set_option relaxedAutoImplicit false

namespace JvmSchema

open FilePath (components endsInName isAbsolute isProper join names segments)

namespace FileSystem

/-- The files as they are seen from a directory, from which a relative path is opened. -/
def seenFrom (disk : FileSystem) (directory : String) : FileSystem where
  read path := disk.read (join directory path)
  isFile path := disk.isFile (join directory path)

/-- Of the paths in question, absolute ones with the same components lead to the same content or to
none, if both end in a name or neither does. -/
def FollowsNames (disk : FileSystem) (among : String → Prop) : Prop :=
  ∀ path path', among path → among path' → isAbsolute path → isAbsolute path' →
    components path = components path' → endsInName path = endsInName path' →
    (disk.read path).toOption = (disk.read path').toOption

theorem FollowsNames.mono {disk : FileSystem} {among fewer : String → Prop}
    (h : disk.FollowsNames among) (hfewer : ∀ path, fewer path → among path) :
    disk.FollowsNames fewer :=
  fun path path' hpath hpath' ↦ h path path' (hfewer path hpath) (hfewer path' hpath')

/-- The path is absolute, and no path with its components leads to content. -/
structure IsDirectory (disk : FileSystem) (directory : String) : Prop where
  isAbsolute : isAbsolute directory
  toOption_read (path : String) (habsolute : FilePath.isAbsolute path)
    (hcomponents : components path = components directory) : (disk.read path).toOption = none

/-- A relative path and the path that it is opened by give the same content. -/
theorem readText_join {disk : FileSystem} {directory : String} (h : isAbsolute directory)
    (path : String) : (disk.seenFrom directory).readText (join directory path) =
      (disk.seenFrom directory).readText path := by
  have hread : (disk.seenFrom directory).read (join directory path) =
      (disk.seenFrom directory).read path := by
    change disk.read (join directory (join directory path)) = disk.read (join directory path)
    rw [FilePath.join_of_isAbsolute (FilePath.isAbsolute_join h path)]
  rw [readText, readText, hread]

theorem toOption_readText (files : FileSystem) (path : String) :
    (files.readText path).toOption = (files.read path).toOption.bind String.fromUTF8? := by
  rw [readText]
  cases files.read path with
  | error error => rfl
  | ok content =>
    dsimp only [bind, Except.bind, Except.toOption, Option.bind]
    cases String.fromUTF8? content <;> rfl

end FileSystem

/-! ### Trees -/

namespace FileTree

/-- The segments by which a tree is followed: the names, and an empty segment if the last one is not
a name. -/
def route (path : List String) : List String :=
  path.filter isProper ++ if path.getLast?.all isProper then [] else [""]

theorem route_segments (path : String) :
    route (segments path) = names path ++ if endsInName path then [] else [""] := rfl

theorem route_cons_of_isProper {segment : String} (h : isProper segment) (rest : List String) :
    route (segment :: rest) = segment :: route rest := by
  cases rest with
  | nil => simp [route, h]
  | cons second more => simp [route, h]

theorem route_cons_of_not_isProper {segment : String} (h : ¬ isProper segment)
    {rest : List String} (hrest : rest ≠ []) : route (segment :: rest) = route rest := by
  cases rest with
  | nil => exact absurd rfl hrest
  | cons second more => simp [route, h]

theorem route_ne_nil {path : List String} (h : path ≠ []) : route path ≠ [] := by
  obtain ⟨segment, rest, rfl⟩ := List.exists_cons_of_ne_nil h
  induction rest generalizing segment with
  | nil => by_cases hproper : isProper segment <;> simp [route, hproper]
  | cons second more ih =>
    by_cases hproper : isProper segment
    · rw [route_cons_of_isProper hproper]
      exact List.cons_ne_nil _ _
    · rw [route_cons_of_not_isProper hproper (List.cons_ne_nil _ _)]
      exact ih second (List.cons_ne_nil _ _)

theorem follow_cons (tree : FileTree) (directory : List String) (segment : String)
    (rest : List String) : tree.follow directory (segment :: rest) =
      if segment = "" ∨ segment = "." ∨ segment = ".." then
        tree.follow (step directory segment) rest
      else if segmentLimit < segment.utf8ByteSize then .error .nameTooLong
      else
        match tree.node? (step directory segment) with
        | none => .error .missing
        | some .directory => tree.follow (step directory segment) rest
        | some (.file content) =>
          if rest = [] then .ok (.file content) else .error .notDirectory := by
  rw [follow.eq_def]
  dsimp only
  cases tree.node? (step directory segment) with
  | none => rfl
  | some node =>
    cases node with
    | directory => rfl
    | file content => cases rest <;> rfl

theorem follow_cons_of_not_isProper (tree : FileTree) (directory : List String) {segment : String}
    (h : ¬ isProper segment) (rest : List String) :
    tree.follow directory (segment :: rest) = tree.follow directory rest := by
  have hsegment : segment = "" ∨ segment = "." := by
    simpa [isProper, imp_iff_not_or, or_comm] using h
  rw [follow_cons, if_pos (by tauto), step, if_pos hsegment]

/-- Slashes and dots between names are followed to no other place. -/
theorem follow_route (tree : FileTree) (directory path : List String) :
    tree.follow directory (route path) = tree.follow directory path := by
  induction path generalizing directory with
  | nil => rfl
  | cons segment rest ih =>
    by_cases hproper : isProper segment
    · -- A file is left by nothing, and the route of the rest is empty only if the rest is.
      have hnil : route rest = [] ↔ rest = [] :=
        ⟨not_imp_not.1 route_ne_nil, fun h ↦ by rw [h]; rfl⟩
      rw [route_cons_of_isProper hproper, follow_cons, follow_cons]
      simp only [ih, hnil]
    · rw [follow_cons_of_not_isProper tree directory hproper]
      cases rest with
      | nil =>
        have hblank : ¬ isProper "" := by decide
        rw [route, List.filter_cons_of_neg hproper]
        simp [hproper, follow_cons_of_not_isProper tree directory hblank]
      | cons second more =>
        rw [route_cons_of_not_isProper hproper (List.cons_ne_nil _ _), ih]

/-- A directory can be followed with or without a slash at the end. -/
theorem follow_append_blank_iff (tree : FileTree) (directory path : List String) :
    tree.follow directory (path ++ [""]) = .ok .directory ↔
      tree.follow directory path = .ok .directory := by
  induction path generalizing directory with
  | nil =>
    rw [List.nil_append, follow_cons_of_not_isProper tree directory (by decide)]
  | cons segment rest ih =>
    rw [List.cons_append, follow_cons, follow_cons]
    split
    · exact ih _
    · split
      · exact Iff.rfl
      · cases tree.node? (step directory segment) with
        | none => exact Iff.rfl
        | some node =>
          cases node with
          | directory => exact ih _
          | file content => cases rest <;> simp

theorem follow_eq_directory_iff (tree : FileTree) (directory path : List String) :
    tree.follow directory path = .ok .directory ↔
      tree.follow directory (path.filter isProper) = .ok .directory := by
  rw [← follow_route, route]
  split
  · rw [List.append_nil]
  · exact follow_append_blank_iff tree directory _

/-- An absolute path that is not too long is followed, unless there is a null character in it. -/
theorem resolve_of_isAbsolute {tree : FileTree} {path : String} (habsolute : isAbsolute path)
    (hlength : path.utf8ByteSize < pathLimit) : tree.resolve path =
      if '\x00' ∈ path.toList then .error .nullInPath else tree.follow [] (segments path) := by
  have hempty : path ≠ "" := by
    rintro rfl
    exact absurd habsolute (by decide)
  rw [resolve, if_neg hempty, if_neg (Nat.not_le.2 hlength), origin, if_pos habsolute]

theorem followsNames_fileSystem (tree : FileTree) :
    tree.fileSystem.FollowsNames fun path ↦ path.utf8ByteSize < pathLimit := by
  intro path path' hlength hlength' habsolute habsolute' hcomponents hend
  have hnames : names path = names path' :=
    FilePath.names_eq_of_components habsolute habsolute' hcomponents
  have hnull : '\x00' ∈ path.toList ↔ '\x00' ∈ path'.toList := by
    rw [FilePath.mem_toList_iff_exists_mem_names (by decide) (by decide), hnames,
      ← FilePath.mem_toList_iff_exists_mem_names (by decide) (by decide)]
  have hfollow : tree.follow [] (segments path) = tree.follow [] (segments path') := by
    rw [← follow_route, route_segments, hnames, hend, ← route_segments, follow_route]
  have hresolve : tree.resolve path = tree.resolve path' := by
    rw [resolve_of_isAbsolute habsolute hlength, resolve_of_isAbsolute habsolute' hlength',
      hfollow]
    simp only [hnull]
  simp only [fileSystem, hresolve]

theorem isDirectory_fileSystem {tree : FileTree} {directory : String}
    (habsolute : isAbsolute directory)
    (h : tree.follow [] (segments directory) = .ok .directory) :
    tree.fileSystem.IsDirectory directory where
  isAbsolute := habsolute
  toOption_read path habsolute' hcomponents := by
    have hnames : names path = names directory :=
      FilePath.names_eq_of_components habsolute' habsolute hcomponents
    have hpath : tree.follow (tree.origin path) (segments path) = .ok .directory := by
      rw [origin, if_pos habsolute', follow_eq_directory_iff, ← names, hnames, names,
        ← follow_eq_directory_iff, h]
    simp only [fileSystem, resolve, hpath]
    split_ifs <;> rfl

end FileTree

end JvmSchema
