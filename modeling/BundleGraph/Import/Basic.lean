import BundleGraph.ModuleId

/-!
# Imports

A module names others by specifiers.  An `ImportRecord` is a specifier found in its
contents; a `Dependency` adds the identity that the specifier was resolved to.
-/

namespace BundleGraph

/-- How a specifier is reached. -/
inductive ImportKind where
  /-- From the list of entries of a build. -/
  | entryPoint
  /-- `import … from "…"` -/
  | static
  /-- `import("…")` -/
  | dynamic
  /-- `require("…")` -/
  | require
  /-- `export … from "…"` -/
  | reExport
  /-- `@import "…"` in a stylesheet. -/
  | stylesheet
  deriving DecidableEq, Repr

namespace ImportKind

def all : List ImportKind :=
  [.entryPoint, .static, .dynamic, .require, .reExport, .stylesheet]

def name : ImportKind → String
  | .entryPoint => "entry-point"
  | .static => "static"
  | .dynamic => "dynamic"
  | .require => "require"
  | .reExport => "re-export"
  | .stylesheet => "css-import"

def ofName? (s : String) : Option ImportKind :=
  all.find? fun k => k.name == s

end ImportKind

/-- A specifier found in the contents of a module. -/
structure ImportRecord where
  specifier : String
  kind : ImportKind
  deriving DecidableEq, Repr

/-- An edge of the graph: a specifier of a module and the identity it was resolved to. -/
structure Dependency where
  specifier : String
  kind : ImportKind
  resolved : ModuleId
  deriving DecidableEq, Repr

end BundleGraph
