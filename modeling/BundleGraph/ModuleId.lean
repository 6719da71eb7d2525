import BundleGraph.Path
import BundleGraph.Text.Ascii

/-!
# Identities of modules

A module is known by a path and a namespace.  Ordinary files live in the namespace `file`;
plugins bring namespaces of their own, in which a path is any text.

## Main definitions

* `ModuleId.create` — an identity, if both parts have characters.
* `ModuleId.le` — the order of identities: by path, then by namespace.
-/

namespace BundleGraph

/-- The namespace of ordinary files. -/
def fileSpace : String := "file"

/-- The identity of a module. -/
structure ModuleId where
  path : String
  /-- The namespace. -/
  space : String
  deriving DecidableEq, Repr, Inhabited

/-- What is wrong with the parts of an identity. -/
inductive IdentityError where
  | emptyPath
  | emptyNamespace (path : String)
  deriving DecidableEq, Repr

/-- The text for a person. -/
def IdentityError.message : IdentityError → String
  | .emptyPath => "module path cannot be empty"
  | .emptyNamespace path => s!"module namespace cannot be empty (path: {path})"

namespace ModuleId

/-- An identity, if both parts have characters. -/
def create (path space : String) : Except IdentityError ModuleId :=
  if path.isEmpty then .error .emptyPath
  else if space.isEmpty then .error (.emptyNamespace path)
  else .ok ⟨path, space⟩

/-- The identity of an ordinary file. -/
def ofFile (path : String) : Except IdentityError ModuleId :=
  create path fileSpace

def isFile (id : ModuleId) : Bool :=
  id.space == fileSpace

def asPath (id : ModuleId) : Path :=
  ⟨id.path⟩

/-- The extension of the path in small letters. -/
def extension? (id : ModuleId) : Option String :=
  id.asPath.extension?.map Text.asciiLower

/-- The text of an identity: namespace, colon, path. -/
def display (id : ModuleId) : String :=
  id.space ++ ":" ++ id.path

/-- The order of identities: by path, then by namespace. -/
def le (a b : ModuleId) : Bool :=
  if a.path = b.path then decide (a.space ≤ b.space) else decide (a.path ≤ b.path)

/-- Identities in their order. -/
def sort (ids : List ModuleId) : List ModuleId :=
  ids.mergeSort le

end ModuleId

end BundleGraph
