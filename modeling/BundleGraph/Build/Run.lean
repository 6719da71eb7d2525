import BundleGraph.Import.Scan
import BundleGraph.Plugin.Load
import BundleGraph.Plugin.Resolve

/-!
# The run of a build

A run claims identities and works through them in the order in which they were claimed.
To process an identity means to load its module, to find its imports, to resolve them,
and to put the module into the graph; then the identities its imports lead to are claimed.
Requests with the same key are resolved once: the first one decides.

## Main definitions

* `Act` — what a run does that others could watch; `RunState.acts` is its record.
* `Run.resolve` — resolves a request, or takes the answer to an earlier one.
* `Run.claim` — claims the identity of a resolution, once and within the limit.
* `Run.process` — loads one module and resolves its imports.
* `Run.drain` — processes what is claimed until nothing is left.
-/

namespace BundleGraph

/-- What a run works with. -/
structure BuildPlan where
  resolve : ResolveRequest → Work Resolution
  load : LoadRequest → Work LoadedModule
  /-- Whether imports are followed. -/
  followImports : Bool
  /-- The number of identities that may be claimed. -/
  maxModules : Nat

/-- What requests have in common that get the same answer: the specifier, the namespace
and the directory it stands in.  Spellings of one directory are one key. -/
structure ResolveKey where
  specifier : String
  space : String
  directory : Option (List Path.Component)
  deriving DecidableEq, Repr

def ResolveRequest.key (q : ResolveRequest) : ResolveKey where
  specifier := q.specifier
  space := q.space
  directory := q.directory.map Path.components

/-- What a run does that others could watch. -/
inductive Act where
  /-- The task of a claimed resolution begins. -/
  | began (r : Resolution)
  /-- A request is walked through the resolvers. -/
  | walked (q : ResolveRequest) (answer : Except BuildError Resolution)
  /-- A request gets the answer to an earlier one. -/
  | recalled (q : ResolveRequest) (answer : Resolution)
  /-- A module is walked through the loaders. -/
  | loaded (q : LoadRequest) (answer : Except BuildError LoadedModule)

/-- Where a run stands. -/
structure RunState where
  /-- The identities claimed, the latest first. -/
  claimed : List ModuleId := []
  /-- What is claimed and not processed, in the order of the claims. -/
  pending : List Resolution := []
  /-- The answers so far. -/
  answers : List (ResolveKey × Resolution) := []
  graph : ModuleGraph := {}
  /-- The number of requests, answered from before or not. -/
  requests : Nat := 0
  /-- The number of requests that were walked through the resolvers. -/
  resolves : Nat := 0
  /-- The number of modules that were walked through the loaders. -/
  loads : Nat := 0
  notes : List Note := []
  /-- What the run did, in order.  No step reads it; it is what runs are judged by. -/
  acts : List Act := []

/-- The answer so far to the requests of a key. -/
def RunState.answer? (s : RunState) (k : ResolveKey) : Option Resolution :=
  (s.answers.find? fun a => a.1 == k).map Prod.snd

/-- A step of a run.  A step that fails keeps the state it reached. -/
abbrev Run := EStateM BuildError RunState

namespace Run

/-- Does work and keeps its notes. -/
def perform (w : Work α) : Run α := do
  modify fun s => { s with notes := s.notes ++ w.notes }
  match w.result with
  | .ok a => return a
  | .error e => throw e

def record (a : Act) : Run Unit :=
  modify fun s => { s with acts := s.acts ++ [a] }

/-- Walks a request through the resolvers and keeps the answer for its key. -/
def walk (p : BuildPlan) (q : ResolveRequest) : Run Resolution := do
  let w := p.resolve q
  modify fun s => { s with resolves := s.resolves + 1 }
  record (.walked q w.result)
  let r ← perform w
  modify fun s => { s with answers := s.answers ++ [(q.key, r)] }
  return r

/-- Resolves a request, or takes the answer to an earlier one with the same key. -/
def resolve (p : BuildPlan) (q : ResolveRequest) : Run Resolution := do
  modify fun s => { s with requests := s.requests + 1 }
  match (← get).answer? q.key with
  | some r =>
    record (.recalled q r)
    return r
  | none => walk p q

/-- Claims the identity of a resolution, unless it is claimed. -/
def claim (p : BuildPlan) (r : Resolution) : Run Unit := do
  let s ← get
  if s.claimed.contains r.id then return
  else if p.maxModules ≤ s.claimed.length then throw (.tooManyModules p.maxModules)
  else set { s with claimed := r.id :: s.claimed, pending := s.pending ++ [r] }

def claimAll (p : BuildPlan) : List Resolution → Run Unit
  | [] => return
  | r :: rs => do
    claim p r
    claimAll p rs

def addModule (m : Module) : Run Unit := do
  match (← get).graph.add m with
  | .ok g => modify fun s => { s with graph := g }
  | .error e => throw (.graph e)

def requestOf (id : ModuleId) (loaded : LoadedModule) (r : ImportRecord) : ResolveRequest where
  specifier := r.specifier
  importer := some id
  space := id.space
  directory := loaded.directory
  kind := r.kind
  pluginData := loaded.pluginData

def resolveImports (p : BuildPlan) (id : ModuleId) (loaded : LoadedModule) :
    List ImportRecord → Run (List (ImportRecord × Resolution))
  | [] => return []
  | r :: rs => do
    let child ← resolve p (requestOf id loaded r)
    return (r, child) :: (← resolveImports p id loaded rs)

/-- The imports of a loaded module, if they are followed. -/
def importsOf (p : BuildPlan) (id : ModuleId) (loaded : LoadedModule) :
    Except BuildError (List ImportRecord) :=
  if p.followImports then
    match scanImports? loaded.contents loaded.kind with
    | some rs => .ok rs
    | none => .error (.load id (.unparsable id.path))
  else .ok []

/-- The module of a resolution, from what was loaded and what its imports lead to. -/
def moduleOf (r : Resolution) (loaded : LoadedModule)
    (children : List (ImportRecord × Resolution)) : Module where
  id := r.id
  contents := loaded.contents
  kind := loaded.kind
  dependencies := children.map fun c => ⟨c.1.specifier, c.1.kind, c.2.id⟩
  loadedBy := loaded.loadedBy
  pluginData := loaded.pluginData.or r.pluginData

/-- Puts an external module into the graph. -/
def processExternal (r : Resolution) : Run (List Resolution) := do
  perform (Work.tell (.externalModule r.id))
  addModule (Module.ofExternal r.id r.pluginData)
  return []

/-- Walks a module through the loaders. -/
def load (p : BuildPlan) (q : LoadRequest) : Run LoadedModule := do
  let w := p.load q
  modify fun s => { s with loads := s.loads + 1 }
  record (.loaded q w.result)
  perform w

/-- Resolves the imports of a loaded module and puts the module into the graph. -/
def linkLoaded (p : BuildPlan) (r : Resolution) (loaded : LoadedModule) :
    Run (List Resolution) := do
  let records ← perform (Work.ofExcept (importsOf p r.id loaded))
  let children ← resolveImports p r.id loaded records
  perform (Work.tell (.moduleProcessed r.id children.length))
  addModule (moduleOf r loaded children)
  return children.map (·.2)

/-- Loads the module of a resolution, resolves its imports and puts it into the graph. -/
def processLoaded (p : BuildPlan) (r : Resolution) : Run (List Resolution) := do
  linkLoaded p r (← load p ⟨r.id, r.pluginData⟩)

/-- Processes a claimed resolution; the answer is what its imports lead to. -/
def process (p : BuildPlan) (r : Resolution) : Run (List Resolution) := do
  record (.began r)
  if r.external then processExternal r else processLoaded p r

/-- Resolves an entry and claims what it leads to; the answer is the identity. -/
def resolveEntry (p : BuildPlan) (directory : Path) (e : String) : Run ModuleId := do
  let r ← resolve p (ResolveRequest.ofEntry e directory)
  claim p r
  return r.id

/-- Resolves entries in order, each claimed right after. -/
def resolveEntries (p : BuildPlan) (directory : Path) : List String → Run (List ModuleId)
  | [] => return []
  | e :: es => do
    let id ← resolveEntry p directory e
    return id :: (← resolveEntries p directory es)

/-- Processes a claimed resolution and claims what its imports lead to. -/
def work (p : BuildPlan) (r : Resolution) : Run Unit := do
  claimAll p (← process p r)

/-- Processes what is claimed until nothing is left, at most `n` times. -/
def drain (p : BuildPlan) : Nat → Run Unit
  | 0 => return
  | n + 1 => do
    let s ← get
    match s.pending with
    | [] => return
    | r :: rest =>
      set { s with pending := rest }
      work p r
      drain p n

def declareEntries (ids : List ModuleId) : Run Unit := do
  let s ← get
  match s.graph.setEntryPoints ids with
  | (g, .ok ()) => set { s with graph := g }
  | (g, .error e) =>
    set { s with graph := g }
    throw (.graph e)

/-- The whole run.  An identity is processed at most once, and no more than `maxModules` are
claimed, so as many rounds are enough. -/
def build (p : BuildPlan) (entries : List String) (directory : Path) : Run Unit := do
  let ids ← resolveEntries p directory entries
  drain p p.maxModules
  declareEntries ids

end Run

/-- The state that a run reaches, as work. -/
def RunState.ofResult : EStateM.Result BuildError RunState Unit → Work RunState
  | .ok _ s => ⟨s.notes, .ok s⟩
  | .error e s => ⟨s.notes, .error e⟩

/-- The state after building the modules that entries lead to. -/
def BuildPlan.execute (p : BuildPlan) (entries : List String) (directory : Path) :
    Work RunState :=
  RunState.ofResult ((Run.build p entries directory).run {})

end BundleGraph
