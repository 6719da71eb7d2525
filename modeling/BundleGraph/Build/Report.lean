import BundleGraph.Build.Files
import BundleGraph.Build.Options
import BundleGraph.Build.Run

/-!
# Building

A build checks its options, registers its plugins, and runs.  Its report holds the graph,
the entries, counts, and what the options say about the output.

## Main definitions

* `BuildStats.cacheHits` — requests that were answered from before.
* `BuildOptions.build` — the build of options on a file system.
-/

namespace BundleGraph

/-- Counts of a build. -/
structure BuildStats where
  /-- Identities in the graph. -/
  modules : Nat
  /-- Requests, answered from before or not. -/
  resolveRequests : Nat
  /-- Requests that were walked through the resolvers. -/
  resolves : Nat
  /-- Modules that were walked through the loaders. -/
  loads : Nat
  deriving DecidableEq, Repr

/-- Requests that were answered from before. -/
def BuildStats.cacheHits (s : BuildStats) : Nat :=
  s.resolveRequests - s.resolves

/-- What the options say about the output. -/
structure OutputOptions where
  bundle : Bool
  outfile : Option Path
  outdir : Option Path
  format : OutputFormat
  platform : Platform
  deriving DecidableEq, Repr

/-- What a build gives. -/
structure BuildReport where
  graph : ModuleGraph
  entryPoints : List ModuleId
  output : OutputOptions
  stats : BuildStats

namespace BuildReport

/-- The module of the first entry. -/
def entryModule? (r : BuildReport) : Option Module :=
  r.entryPoints.head?.bind r.graph.module?

end BuildReport

/-- The counts of a run that has ended. -/
def RunState.stats (s : RunState) : BuildStats where
  modules := s.graph.size
  resolveRequests := s.requests
  resolves := s.resolves
  loads := s.loads

namespace BuildOptions

def output (o : BuildOptions) : OutputOptions where
  bundle := o.bundle
  outfile := o.outfile
  outdir := o.outdir
  format := o.format
  platform := o.platform

/-- The plan for a run with the plugins of a registry. -/
def plan (o : BuildOptions) (registry : Registry) (files : FileSystem) : BuildPlan where
  resolve := registry.resolve (FileResolver.resolve { files, external := o.external })
  load := registry.load (FileLoader.load { files, loaders := o.loaders })
  followImports := o.bundle
  maxModules := o.maxModules

def report (o : BuildOptions) (s : RunState) : BuildReport where
  graph := s.graph
  entryPoints := s.graph.entryPoints
  output := o.output
  stats := s.stats

/-- The directory that entries are read from. -/
def directory (o : BuildOptions) (files : FileSystem) : Except BuildError Path :=
  match o.cwd with
  | some path => .ok path
  | none =>
    match files.directory with
    | .ok path => .ok path
    | .error e => .error (.file e)

/-- The build of options on a file system. -/
def build (o : BuildOptions) (files : FileSystem) : Work BuildReport := do
  Work.ofExcept o.validate
  let registry ← Registry.ofSetups o.plugins
  let directory ← Work.ofExcept (o.directory files)
  Work.tell (.buildStarted o.entries.length registry.size o.bundle)
  let s ← (o.plan registry files).execute o.entries directory
  Work.tell (.buildFinished s.stats.modules s.stats.resolves s.stats.loads)
  return o.report s

end BuildOptions

end BundleGraph
