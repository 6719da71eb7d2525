import BundleGraph.FileSystem.Basic

/-!
# Files on a disk

A tree of directories, walked as an operating system does: a path is followed name by
name, two dots lead to the directory above, and a name is looked up only in a directory.

## Main definitions

* `Disk.walk` — what a path leads to.
* `Disk.insert` — puts in a file and the directories above it.
* `Disk.fileSystem` — the answers.
-/

namespace BundleGraph

/-- A disk, as a list of files and directories under the names that lead to them. -/
structure Disk where
  /-- The working directory. -/
  directory : Path
  files : List (List String × ByteArray) := []
  directories : List (List String) := []

namespace Disk

/-- Why a path leads nowhere. -/
inductive WalkError where
  | missing
  /-- A name is looked up in a file. -/
  | notDirectory
  | isDirectory
  | nameTooLong
  | zeroCharacter
  deriving DecidableEq, Repr

/-- The reason as the system words it. -/
def WalkError.reason : WalkError → String
  | .missing => "No such file or directory (os error 2)"
  | .notDirectory => "Not a directory (os error 20)"
  | .isDirectory => "Is a directory (os error 21)"
  | .nameTooLong => "File name too long (os error 36)"
  | .zeroCharacter => "file name contained an unexpected NUL byte"

/-- What a path leads to. -/
inductive Place where
  | file (bytes : ByteArray)
  | directory (names : List String)

/-- What the names of a list lead to from the root. -/
def place? (d : Disk) (names : List String) : Option Place :=
  match d.files.find? fun f => f.1 == names with
  | some f => some (.file f.2)
  | none =>
    if names.isEmpty || d.directories.contains names then some (.directory names) else none

/-- Follows the pieces of a path from a place. -/
def follow (d : Disk) : Place → List String → Except WalkError Place
  | p, [] => .ok p
  | .file _, _ :: _ => .error .notDirectory
  | .directory names, piece :: r =>
    if piece = "" ∨ piece = "." then follow d (.directory names) r
    else if piece = ".." then follow d (.directory names.dropLast) r
    else if 255 < piece.utf8ByteSize then .error .nameTooLong
    else
      match d.place? (names ++ [piece]) with
      | some p => follow d p r
      | none => .error .missing

/-- The pieces of a path between its slashes. -/
def pieces (path : Path) : List String :=
  (Path.split path.text.toList).map String.ofList

/-- What a path leads to. -/
def walk (d : Disk) (path : Path) : Except WalkError Place :=
  if path.text.isEmpty then .error .missing
  else if path.text.toList.contains '\x00' then .error .zeroCharacter
  else if 4096 ≤ path.text.utf8ByteSize then .error .nameTooLong
  else if path.isAbsolute then d.follow (.directory []) (pieces path)
  else d.follow (.directory []) (pieces d.directory ++ pieces path)

/-- The names of the directories above the place that names lead to. -/
def above (names : List String) : List (List String) :=
  (List.range names.length).map names.take

/-- The names that lead from the root to a place, for a path without dots. -/
def namesOf (path : Path) : List String :=
  path.components.filterMap fun c =>
    match c with
    | .normal name => some name
    | _ => none

/-- Makes a directory and those above it. -/
def makeDirectory (d : Disk) (path : Path) : Disk :=
  let names := namesOf (d.directory.join path).clean
  { d with directories := d.directories ++ above names ++ [names] }

/-- Puts in a file, in place of one that is there, and the directories above it. -/
def insert (d : Disk) (path : Path) (bytes : ByteArray) : Disk :=
  let names := namesOf (d.directory.join path).clean
  { d with
    files := (names, bytes) :: d.files.filter fun f => f.1 != names
    directories := d.directories ++ above names }

def read (d : Disk) (path : Path) : Except FileError ByteArray :=
  match d.walk path with
  | .ok (.file bytes) => .ok bytes
  | .error .missing => .error (.notFound path)
  | .ok (.directory _) =>
    .error (.system s!"Failed to read {path.text}: {WalkError.isDirectory.reason}")
  | .error e => .error (.system s!"Failed to read {path.text}: {e.reason}")

def isFile (d : Disk) (path : Path) : Bool :=
  match d.walk path with
  | .ok (.file _) => true
  | _ => false

/-- Whether a path leads anywhere. -/
def contains (d : Disk) (path : Path) : Bool :=
  match d.walk path with
  | .ok _ => true
  | .error _ => false

def fileSystem (d : Disk) : FileSystem where
  read := d.read
  contains := d.contains
  isFile := d.isFile
  directory := .ok d.directory

end Disk

end BundleGraph
