import BundleGraph.Path

/-!
# File systems

What resolving and loading ask of a file system: to read a file, to say whether a path
exists and whether it is a file, and the directory that relative paths start from.
-/

namespace BundleGraph

/-- What can go wrong with a file. -/
inductive FileError where
  | notFound (path : Path)
  /-- The system refused, for the reason given. -/
  | system (reason : String)
  | notText (path : Path)
  | other (reason : String)
  deriving DecidableEq, Repr

def FileError.message : FileError → String
  | .notFound path => s!"File not found: {path.text}"
  | .system reason => s!"I/O error: {reason}"
  | .notText path => s!"File is not valid UTF-8: {path.text}"
  | .other reason => s!"Runtime error: {reason}"

/-- A file system, by its answers. -/
structure FileSystem where
  read : Path → Except FileError ByteArray
  /-- Whether there is a file or a directory. -/
  contains : Path → Bool
  isFile : Path → Bool
  /-- The directory that relative paths start from. -/
  directory : Except FileError Path

namespace FileSystem

/-- The text of a file; its bytes have to be UTF-8. -/
def readText (fs : FileSystem) (path : Path) : Except FileError String :=
  match fs.read path with
  | .error e => .error e
  | .ok bytes =>
    match String.fromUTF8? bytes with
    | some text => .ok text
    | none => .error (.notText path)

end FileSystem

end BundleGraph
