import BundleGraph.ContentKind
import BundleGraph.Import.Basic
import BundleGraph.Json.Basic

/-!
# Modules

A node of the graph: an identity, the contents that were loaded for it, and the identities
its imports lead to.
-/

namespace BundleGraph

/-- A node of the graph. -/
structure Module where
  id : ModuleId
  /-- What was loaded; empty for an external module. -/
  contents : String := ""
  kind : ContentKind := .js
  /-- The imports, in the order in which they were found. -/
  dependencies : List Dependency := []
  isEntry : Bool := false
  /-- External modules are resolved and never loaded. -/
  isExternal : Bool := false
  /-- The plugin whose loader gave the contents. -/
  loadedBy : Option String := none
  /-- What a plugin attached while it resolved or loaded the module. -/
  pluginData : Option Json := none
  deriving DecidableEq, Repr

namespace Module

/-- The node of an identity that is not loaded. -/
def ofExternal (id : ModuleId) (pluginData : Option Json) : Module :=
  { id, isExternal := true, pluginData }

/-- The identities that the imports lead to, in their order. -/
def dependencyIds (m : Module) : List ModuleId :=
  m.dependencies.map Dependency.resolved

/-- The edge of a specifier. -/
def dependency? (m : Module) (specifier : String) : Option Dependency :=
  m.dependencies.find? fun d => d.specifier == specifier

def markEntry (m : Module) : Module :=
  { m with isEntry := true }

end Module

end BundleGraph
