import BundleGraph.Journal
import BundleGraph.Plugin.Setup

/-!
# The plugins of a build

Plugins in the order in which they were registered.  A setup that fails leaves the registry
as it was.
-/

namespace BundleGraph

/-- Plugins in the order in which they were registered. -/
structure Registry where
  plugins : List Plugin := []

namespace Registry

def size (r : Registry) : Nat :=
  r.plugins.length

/-- The setup run on a fresh draft. -/
def runSetup (r : Registry) (s : Setup) : SetupRun :=
  PluginDraft.run { index := r.size } s

def pluginOf (r : Registry) (s : Setup) : Except BuildError Plugin :=
  match (r.runSetup s).result with
  | .ok d => d.finish
  | .error e => .error e

def register (r : Registry) (s : Setup) : Work Registry := do
  let p ← Work.ofExcept (r.pluginOf s)
  Work.tell (.pluginRegistered p.name p.resolvers.length p.loaders.length)
  return { plugins := r.plugins ++ [p] }

/-- Registers the plugins of a list of setups, up to the first that fails. -/
def registerAll (r : Registry) : List Setup → Work Registry
  | [] => return r
  | s :: ss => do registerAll (← r.register s) ss

def ofSetups (ss : List Setup) : Work Registry :=
  registerAll {} ss

/-- All resolvers with the names of their plugins, in the order in which they are asked. -/
def resolvers (r : Registry) : List (String × ResolverHandler) :=
  r.plugins.flatMap fun p => p.resolvers.map fun h => (p.name, h)

/-- All loaders with the names of their plugins, in the order in which they are asked. -/
def loaders (r : Registry) : List (String × LoaderHandler) :=
  r.plugins.flatMap fun p => p.loaders.map fun h => (p.name, h)

end Registry

end BundleGraph
