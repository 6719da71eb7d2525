import BundleGraph.ContentKind
import BundleGraph.Import.Basic
import BundleGraph.Json.Basic

/-!
# Requests and answers of plugins

A plugin is asked to resolve a specifier or to load a module.  It gives an answer, passes
the request on (`none`), or fails with a text.
-/

namespace BundleGraph

/-- The two questions a plugin can be asked. -/
inductive HookKind where
  | resolve
  | load
  deriving DecidableEq, Repr

def HookKind.name : HookKind → String
  | .resolve => "resolve"
  | .load => "load"

/-- A specifier to be resolved, and where it stands. -/
structure ResolveRequest where
  /-- The specifier as written. -/
  specifier : String
  /-- The module that imports it; none for an entry. -/
  importer : Option ModuleId
  /-- The namespace of the importer. -/
  space : String
  /-- The directory that relative specifiers start from. -/
  directory : Option Path
  kind : ImportKind
  /-- What the loader of the importer attached. -/
  pluginData : Option Json
  deriving DecidableEq, Repr

def ResolveRequest.ofEntry (specifier : String) (directory : Path) : ResolveRequest where
  specifier := specifier
  importer := none
  space := fileSpace
  directory := some directory
  kind := .entryPoint
  pluginData := none

/-- What a specifier was resolved to. -/
structure Target where
  path : String
  /-- The namespace; that of files if none is given. -/
  space : Option String := none
  external : Bool := false
  /-- Data for the loader of the module. -/
  pluginData : Option Json := none
  deriving DecidableEq, Repr

/-- A module to be loaded. -/
structure LoadRequest where
  id : ModuleId
  /-- What the resolver attached. -/
  pluginData : Option Json
  deriving DecidableEq, Repr

/-- What a module was loaded as. -/
structure Contents where
  text : String
  /-- How the text is read; as a script if no kind is given. -/
  kind : Option ContentKind := none
  /-- The directory that the relative specifiers of the module start from. -/
  directory : Option Path := none
  /-- Data for the resolvers of the module's imports. -/
  pluginData : Option Json := none
  deriving DecidableEq, Repr

end BundleGraph
