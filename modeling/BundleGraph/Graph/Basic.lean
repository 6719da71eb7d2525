import BundleGraph.Graph.Module

/-!
# The graph of modules

Modules under their identities, each identity at most once, and the list of entries.
Modules are held in the order in which they came; every answer that lists them sorts them
by identity.

## Main definitions

* `ModuleGraph.add` — puts in a module, unless its identity is taken.
* `ModuleGraph.setEntryPoints` — declares the entries.
* `ModuleGraph.modules`, `ModuleGraph.dependents`, `ModuleGraph.statistics` — questions.
-/

namespace BundleGraph

/-- What can go wrong in a graph. -/
inductive GraphError where
  | identity (error : IdentityError)
  | duplicate (id : ModuleId)
  | entryMissing (id : ModuleId)
  | moduleMissing (id : ModuleId)
  /-- An operation that failed for the reason given. -/
  | failed (reason : String)
  deriving DecidableEq, Repr

namespace GraphError

def message : GraphError → String
  | .identity e => s!"Invalid module id: {e.message}"
  | .duplicate id => s!"Operation error: module {id.display} is already in the graph"
  | .entryMissing id => s!"Operation error: entry {id.display} is not in the graph"
  | .moduleMissing id => s!"Operation error: module {id.display} not found"
  | .failed reason => s!"Operation error: {reason}"

end GraphError

/-- Modules by identity, and the entries in their order. -/
structure ModuleGraph where
  /-- The modules, in the order in which they came. -/
  nodes : List Module := []
  entryPoints : List ModuleId := []
  deriving DecidableEq, Repr

/-- Counts that sum a graph up. -/
structure GraphStatistics where
  moduleCount : Nat
  externalCount : Nat
  entryCount : Nat
  edgeCount : Nat
  deriving DecidableEq, Repr

namespace ModuleGraph

def empty : ModuleGraph := {}

instance : Inhabited ModuleGraph := ⟨empty⟩

/-! ## Looking up -/

def module? (g : ModuleGraph) (id : ModuleId) : Option Module :=
  g.nodes.find? fun m => m.id == id

def contains (g : ModuleGraph) (id : ModuleId) : Bool :=
  g.nodes.any fun m => m.id == id

def size (g : ModuleGraph) : Nat :=
  g.nodes.length

def isEmpty (g : ModuleGraph) : Bool :=
  g.nodes.isEmpty

/-- All modules, in the order of their identities. -/
def modules (g : ModuleGraph) : List Module :=
  g.nodes.mergeSort fun a b => a.id.le b.id

/-- The identities that the imports of a module lead to. -/
def dependencies (g : ModuleGraph) (id : ModuleId) : Except GraphError (List ModuleId) :=
  match g.module? id with
  | some m => .ok m.dependencyIds
  | none => .error (.moduleMissing id)

/-- The identities of the modules that import `id`, in their order. -/
def dependents (g : ModuleGraph) (id : ModuleId) : List ModuleId :=
  ModuleId.sort ((g.nodes.filter fun m => m.dependencyIds.contains id).map Module.id)

def statistics (g : ModuleGraph) : GraphStatistics where
  moduleCount := g.nodes.length
  externalCount := (g.nodes.filter Module.isExternal).length
  entryCount := g.entryPoints.length
  edgeCount := (g.nodes.flatMap Module.dependencies).length

/-! ## Changing -/

/-- The list of entries with one more at its end, unless it is there. -/
def withEntry (entries : List ModuleId) (id : ModuleId) : List ModuleId :=
  if entries.contains id then entries else entries ++ [id]

/-- Puts in a module; fails if its identity is taken. -/
def add (g : ModuleGraph) (m : Module) : Except GraphError ModuleGraph :=
  if g.contains m.id then .error (.duplicate m.id)
  else
    .ok {
      nodes := g.nodes ++ [m]
      entryPoints := if m.isEntry then withEntry g.entryPoints m.id else g.entryPoints }

def markEntry (g : ModuleGraph) (id : ModuleId) : ModuleGraph :=
  { g with nodes := g.nodes.map fun m => if m.id = id then m.markEntry else m }

/-- Marks the modules of a list one after the other, up to the first that is missing. -/
def markEntries (g : ModuleGraph) : List ModuleId → ModuleGraph × Except GraphError Unit
  | [] => (g, .ok ())
  | id :: ids =>
    if g.contains id then markEntries (g.markEntry id) ids
    else (g, .error (.entryMissing id))

/-- Declares the entries, later repeats dropped.  The marks set before a missing one stay, as
do the marks of entries declared before. -/
def setEntryPoints (g : ModuleGraph) (ids : List ModuleId) :
    ModuleGraph × Except GraphError Unit :=
  match g.markEntries ids with
  | (g, .ok ()) => ({ g with entryPoints := ids.foldl withEntry [] }, .ok ())
  | (g, .error e) => (g, .error e)

end ModuleGraph

end BundleGraph
