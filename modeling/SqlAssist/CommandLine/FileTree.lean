/-!
# File trees

The files and directories that a command can reach, named by paths from the directory in which it
runs.
-/
namespace SqlAssist

/-- Why a file cannot be read. -/
inductive FileError where
  | notFound
  | isDirectory
  | notDirectory
  /-- The path is no name that a file can have. -/
  | invalidName
  deriving DecidableEq, Repr

/-- What is said about a file that cannot be read. -/
def FileError.message : FileError → String
  | .notFound => "No such file or directory"
  | .isDirectory => "Is a directory"
  | .notDirectory => "Not a directory"
  | .invalidName => "Invalid argument"

/-- Files with their contents, and directories. The parts of a path are its names. -/
structure FileTree where
  files : List (List String × ByteArray)
  directories : List (List String) := []

namespace FileTree

/-- The names of a path. Empty names and single dots stand for nothing. -/
def parts (path : String) : List String :=
  (path.splitOn "/").filter fun name => name != "" && name != "."

/-- The tree of the given files and directories, which also has the directories that lead to
them. -/
def ofPaths (files : List (String × ByteArray)) (directories : List String) : FileTree :=
  ⟨files.map fun (path, content) => (parts path, content), directories.map parts⟩

/-- The content of a file. -/
def file? (tree : FileTree) (path : List String) : Option ByteArray :=
  (tree.files.find? (·.1 == path)).map (·.2)

/-- Whether the path is a directory. -/
def isDirectory (tree : FileTree) (path : List String) : Bool :=
  path.isEmpty || tree.directories.any (path.isPrefixOf ·) ||
    tree.files.any fun (file, _) => path.isPrefixOf file && path.length < file.length

/-- Follows the names of a path from a directory, which is given from its last name to its first.
Two dots lead to the directory above; nothing is known above the first directory. -/
def follow (tree : FileTree) (above : Nat) : List String → List String → Except FileError ByteArray
  | directory, [] =>
    if 0 < above then .error .isDirectory
    else
      match tree.file? directory.reverse with
      | some content => .ok content
      | none => if tree.isDirectory directory.reverse then .error .isDirectory else .error .notFound
  | directory, name :: rest =>
    if 0 < above then
      if name = ".." then follow tree (above + 1) directory rest else .error .notFound
    else if (tree.file? directory.reverse).isSome then .error .notDirectory
    else if !tree.isDirectory directory.reverse then .error .notFound
    else if name = ".." then
      match directory with
      | [] => follow tree (above + 1) [] rest
      | _ :: parent => follow tree above parent rest
    else follow tree above (name :: directory) rest

/-- Reads the file of a path. Of paths from the root only the root itself is known. -/
def read (tree : FileTree) (path : String) : Except FileError ByteArray :=
  if path.toList.contains (Char.ofNat 0) then .error .invalidName
  else if path.toList.head? = some '/' then
    if (parts path).all (· == "..") then .error .isDirectory else .error .notFound
  else tree.follow 0 [] (parts path)

end FileTree

end SqlAssist
