import BundleGraph.Proofs.Build.Completion
import BundleGraph.Proofs.Run.Anew

/-!
# The memory of a build does not show

A build keeps the answers to its requests, and takes the answer to an earlier request when one
comes up with the same key.  When requests of one key fare alike, this cannot be told from the
outcome: a build that walks every request through the resolvers fails with the same error, or
gives the same report but for the number of walks, which is then the number of requests.

## Main definitions

* `BuildOptions.buildWith` — the build of options, with some way to execute a plan.
* `BuildOptions.buildAnew` — the build without a memory.
* `BuildOptions.buildAnew_result` — both come to the same.
-/

namespace BundleGraph

open Run

/-- The state after building the modules that entries lead to, without a memory. -/
def BuildPlan.executeAnew (p : BuildPlan) (entries : List String) (directory : Path) :
    Work RunState :=
  RunState.ofResult ((buildBy (resolveAnew p) p entries directory).run {})

namespace BuildOptions

variable {o : BuildOptions} {files : FileSystem}

/-- The build of options on a file system, with some way to execute a plan. -/
def buildWith (execute : BuildPlan → List String → Path → Work RunState) (o : BuildOptions)
    (files : FileSystem) : Work BuildReport := do
  Work.ofExcept o.validate
  let registry ← Registry.ofSetups o.plugins
  let directory ← Work.ofExcept (o.directory files)
  Work.tell (.buildStarted o.entries.length registry.size o.bundle)
  let s ← execute (o.plan registry files) o.entries directory
  Work.tell (.buildFinished s.stats.modules s.stats.resolves s.stats.loads)
  return o.report s

theorem buildWith_execute (o : BuildOptions) (files : FileSystem) :
    o.buildWith BuildPlan.execute files = o.build files := rfl

/-- The build of options on a file system, without a memory. -/
def buildAnew (o : BuildOptions) (files : FileSystem) : Work BuildReport :=
  o.buildWith BuildPlan.executeAnew files

/-- Without a memory, a report counts every request as a walk, and is the same otherwise. -/
theorem report_of_mirrors {p : BuildPlan} {s t : RunState} (h : s.Mirrors p t) :
    o.report t =
      { o.report s with
        stats := { (o.report s).stats with resolves := (o.report s).stats.resolveRequests } } := by
  have hstats : t.stats = { s.stats with resolves := s.stats.resolveRequests } := by
    rw [RunState.stats, h.graph_eq, h.resolves_eq, h.requests_eq, h.loads_eq]
    rfl
  rw [report, hstats, h.graph_eq]
  rfl

/-- A build without a memory fails with the error of the build, or gives its report with every
request counted as a walk. -/
theorem buildAnew_result
    (hk : ∀ registry, (Registry.ofSetups o.plugins).result = .ok registry →
      (o.plan registry files).AnswersByKey) :
    (o.buildAnew files).result =
      (o.build files).result.map fun report =>
        { report with
          stats := { report.stats with resolves := report.stats.resolveRequests } } := by
  rw [buildAnew, ← buildWith_execute]
  simp only [buildWith, Work.result_bind]
  cases o.validate with
  | error e => rfl
  | ok u =>
    cases hregistry : (Registry.ofSetups o.plugins).result with
    | error e => rfl
    | ok registry =>
      cases o.directory files with
      | error e => rfl
      | ok directory =>
        obtain ⟨hv, hs⟩ := build_alike (hk registry hregistry) o.entries directory {} {}
          (RunState.mirrors_empty _)
        simp only [Work.result_ofExcept, Work.result_tell, Except.bind, BuildPlan.execute,
          BuildPlan.executeAnew, result_ofResult, hv]
        cases Run.value (Run.build (o.plan registry files) o.entries directory) {} with
        | error e => rfl
        | ok u => exact congrArg Except.ok (report_of_mirrors hs)

/-- What resolves everything in `circle` answers with the specifier. -/
theorem circle_answer (files : FileSystem) {registry : Registry}
    (h : (Registry.ofSetups circle.plugins).result = .ok registry) (q : ResolveRequest) :
    ((circle.plan registry files).resolve q).result =
      Resolution.ofPlugin "circle" {
        path := q.specifier
        space := some "memory"
        external := q.specifier == "outside" } := by
  cases h
  exact result_resolveWith (Pattern.isFoundIn_of_empty rfl q.specifier) rfl

/-- What resolves everything in `circle` looks at the specifier alone. -/
theorem circle_answersByKey (files : FileSystem) {registry : Registry}
    (h : (Registry.ofSetups circle.plugins).result = .ok registry) :
    (circle.plan registry files).AnswersByKey := by
  refine BuildPlan.answersByKey_of_congr fun q q' hkey => ?_
  have hs : q.specifier = q'.specifier := congrArg ResolveKey.specifier hkey
  rw [circle_answer files h, circle_answer files h, hs]

/-- Two of the four requests of `circle` have one key, and without a memory both are walked. -/
theorem buildAnew_result_circle :
    ∃ files report, (circle.build files).result = .ok report ∧
      report.stats = ⟨2, 4, 3, 1⟩ ∧
      (circle.buildAnew files).result = .ok { report with stats := ⟨2, 4, 4, 1⟩ } := by
  obtain ⟨report, h, -, hstats⟩ := circle_report
  refine ⟨_, report, h, hstats, ?_⟩
  rw [buildAnew_result fun _ => circle_answersByKey _, h, Except.map, hstats]

end BuildOptions

end BundleGraph
