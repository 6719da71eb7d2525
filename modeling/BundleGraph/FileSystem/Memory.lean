import BundleGraph.FileSystem.Basic

/-!
# Files in memory

Files under clean paths.  Every path is first read from the working directory and made
clean, so spellings with the same meaning are one file.  A directory exists when a file is
below it.

## Main definitions

* `MemoryFiles.insert` — puts in a file.
* `MemoryFiles.fileSystem` — the answers.
-/

namespace BundleGraph

/-- Files under clean paths, with a working directory. -/
structure MemoryFiles where
  directory : Path
  /-- The files, each path once. -/
  files : List (Path × ByteArray) := []

namespace MemoryFiles

/-- The clean path that a path is stored under. -/
def locate (m : MemoryFiles) (path : Path) : Path :=
  if path.isAbsolute then path.clean else (m.directory.join path).clean

/-- Puts in a file, in place of one with the same location. -/
def insert (m : MemoryFiles) (path : Path) (bytes : ByteArray) : MemoryFiles :=
  let path := m.locate path
  { m with files := (path, bytes) :: m.files.filter fun f => f.1 != path }

/-- The bytes stored at a location. -/
def bytesAt? (m : MemoryFiles) (place : Path) : Option ByteArray :=
  (m.files.find? fun f => f.1 == place).map (·.2)

def read (m : MemoryFiles) (path : Path) : Except FileError ByteArray :=
  match m.bytesAt? (m.locate path) with
  | some bytes => .ok bytes
  | none => .error (.notFound (m.locate path))

def isFile (m : MemoryFiles) (path : Path) : Bool :=
  (m.bytesAt? (m.locate path)).isSome

/-- Whether a file is stored at a path or below it. -/
def contains (m : MemoryFiles) (path : Path) : Bool :=
  m.files.any fun f => f.1.startsWith (m.locate path)

def fileSystem (m : MemoryFiles) : FileSystem where
  read := m.read
  contains := m.contains
  isFile := m.isFile
  directory := .ok m.directory

end MemoryFiles

end BundleGraph
