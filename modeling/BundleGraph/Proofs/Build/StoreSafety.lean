import BundleGraph.Proofs.Build.Accounting
import BundleGraph.Proofs.Build.Termination
import BundleGraph.Proofs.Plugin.Dispatch
import BundleGraph.Proofs.Run.Refusal
import Mathlib

/-!
# The graph of a build refuses nothing

A graph can refuse a module whose identity it has, and an entry whose module it has not.
Neither happens in a build, whatever its plugins and files answer, and in whatever order its
tasks run.  So no build fails because its graph refused an operation.

## Main definitions

* `BuildOptions.AnsweredStep` — one step of a build, with some plugins and files to answer.
* `BuildOptions.GraphTakes` — the graph takes what the build asks it to.
* `BuildOptions.never_refused` — this holds wherever a build stands.
-/

namespace BundleGraph

open Relation Run

/-! ## Errors before the run -/

theorem PluginDraft.perform_not_isRefusal {d : PluginDraft} {step : SetupStep} {e : BuildError}
    (h : d.perform step = .error e) : ¬ e.IsRefusal := by
  have hfilter : ∀ {early o x}, d.compileFilter early o = .error x → ¬ x.IsRefusal := by
    intro early o x hx
    rw [compileFilter] at hx
    split at hx
    · cases hx; exact id
    · split at hx <;> cases hx
      exact id
  cases step with
  | setName name =>
    rw [perform, setName] at h
    split at h
    · cases h; exact id
    · split at h <;> cases h
      exact id
  | addResolver o mark answer =>
    rw [perform] at h
    cases hf : d.compileFilter .resolverBeforeName o with
    | ok f => rw [hf] at h; cases h
    | error x => rw [hf] at h; cases h; exact hfilter hf
  | addLoader o mark answer =>
    rw [perform] at h
    cases hf : d.compileFilter .loaderBeforeName o with
    | ok f => rw [hf] at h; cases h
    | error x => rw [hf] at h; cases h; exact hfilter hf
  | fail reason => cases h; exact id

theorem PluginDraft.run_not_isRefusal {d : PluginDraft} {setup : Setup} {e : BuildError}
    (h : (d.run setup).result = .error e) : ¬ e.IsRefusal := by
  induction setup generalizing d with
  | nil => cases h
  | cons a as ih =>
    rw [run] at h
    cases hp : d.perform a.step with
    | ok d' => rw [hp] at h; exact ih h
    | error x =>
      rw [hp] at h
      by_cases ht : a.tolerant = true
      · simp only [ht, if_true] at h
        exact ih h
      · simp only [ht] at h
        cases h
        exact perform_not_isRefusal hp

theorem Registry.registerAll_not_isRefusal {registry : Registry} {setups : List Setup}
    {e : BuildError} (h : (registry.registerAll setups).result = .error e) : ¬ e.IsRefusal := by
  induction setups generalizing registry with
  | nil => cases h
  | cons setup setups ih =>
    rw [registerAll, Work.result_bind, register, Work.result_bind, Work.result_ofExcept,
      pluginOf] at h
    cases hr : (registry.runSetup setup).result with
    | error x =>
      rw [hr] at h
      cases h
      exact PluginDraft.run_not_isRefusal hr
    | ok d =>
      rw [hr] at h
      cases hn : d.name with
      | none =>
        simp only [PluginDraft.finish, hn] at h
        cases h
        exact id
      | some name =>
        simp only [PluginDraft.finish, hn] at h
        exact ih h

namespace BuildOptions

variable {o : BuildOptions} {directory : Path} {d : Driver}

theorem validate_not_isRefusal {e : BuildError} (h : o.validate = .error e) : ¬ e.IsRefusal := by
  rw [validate] at h
  repeat' split at h
  all_goals cases h
  all_goals exact id

theorem directory_not_isRefusal {files : FileSystem} {e : BuildError}
    (h : o.directory files = .error e) : ¬ e.IsRefusal := by
  rw [BuildOptions.directory] at h
  repeat' split at h
  all_goals cases h
  exact id

/-! ## Files -/

/-- The resolver of files leads somewhere or nowhere, and does not fail. -/
theorem exists_result_resolve (r : FileResolver) (q : ResolveRequest) :
    ∃ t, (r.resolve q).result = .ok t := by
  rw [FileResolver.resolve]
  repeat' split
  all_goals exact ⟨_, rfl⟩

/-- The loader of files fails where a file cannot be read. -/
theorem load_not_isRefusal {l : FileLoader} {id : ModuleId} {e : BuildError}
    (h : l.load id = .error e) : ¬ e.IsRefusal := by
  rw [FileLoader.load] at h
  repeat' split at h
  all_goals cases h
  rename_i x _
  cases x <;> exact fun hr => hr

/-! ## The run -/

/-- Plugins and the default resolver and loader fail with errors of their own. -/
theorem plan_unrefusing (o : BuildOptions) (registry : Registry) (files : FileSystem) :
    (o.plan registry files).Unrefusing where
  resolve := by
    intro q e h
    cases Registry.resolve_eq_error_iff.mp h with
    | callback hd => exact id
    | target hd hf => exact id
    | identity hd hf ht => exact id
    | nowhere hd hf => exact id
    | fallback hd hf =>
      obtain ⟨t, ht⟩ := exists_result_resolve { files, external := o.external } q
      cases ht.symm.trans hf
  load := by
    intro q e h
    cases Registry.load_eq_error_iff.mp h with
    | callback hd => exact id
    | unrecognized hd hf => exact id
    | fallback hd hf => exact load_not_isRefusal hf

/-- One step of a build, with some plugins and files to answer it.  Callbacks may keep a state
and files may change, so that other steps may have others. -/
def AnsweredStep (o : BuildOptions) (directory : Path) (d d' : Driver) : Prop :=
  ∃ registry files, Driver.Step (o.plan registry files) directory d d'

/-- Where a build stands, its graph takes what the build asks it to. -/
structure GraphTakes (o : BuildOptions) (directory : Path) (d : Driver) : Prop where
  /-- The identity of a pending task is not in the graph. -/
  free : ∀ r ∈ d.run.pending, r.id ∉ d.run.graph.nodes.map Module.id
  /-- A task puts in its module, or it leaves the graph alone and fails for another reason than a
  refusal. -/
  task : ∀ registry files r before later s, d.run.pending = before ++ r :: later →
    s = d.run.withPending (before ++ later) →
    (∃ m, m.id = r.id ∧
      (state (process (o.plan registry files) r) s).graph = d.run.graph.push m) ∨
    ∃ e, value (process (o.plan registry files) r) s = .error e ∧ ¬ e.IsRefusal ∧
      (state (process (o.plan registry files) r) s).graph = d.run.graph
  /-- When all tasks are done, the entries are in the graph. -/
  entries : d.unread = [] → d.run.pending = [] → d.done = [] →
    ∀ i ∈ d.roots, i ∈ d.run.graph.nodes.map Module.id
  /-- The build does not end with a refusal. -/
  ends : ∀ registry files e s, d.Ends (o.plan registry files) directory (.error e) s →
    ¬ e.IsRefusal

theorem reaches_of_answeredSteps
    (h : ReflTransGen (o.AnsweredStep directory) (Driver.start o.entries) d) :
    o.Reaches directory d :=
  ReflTransGen.mono (fun _ _ ⟨registry, files, hs⟩ => ⟨_, o.admits_plan registry files, hs⟩) _ _ h

/-- Plugins and files may answer alike all the time. -/
theorem answeredSteps_of_steps {registry : Registry} {files : FileSystem}
    (h : ReflTransGen (Driver.Step (o.plan registry files) directory) (Driver.start o.entries) d) :
    ReflTransGen (o.AnsweredStep directory) (Driver.start o.entries) d :=
  ReflTransGen.mono (fun _ _ hs => ⟨registry, files, hs⟩) _ _ h

section
variable (h : ReflTransGen (o.AnsweredStep directory) (Driver.start o.entries) d)
include h

theorem placed_of_answeredSteps : d.run.Placed :=
  reaches_induction (List.Subset.refl _) (fun _ hs => hs.placed) (reaches_of_answeredSteps h)

theorem rooted_of_answeredSteps : d.Rooted := by
  induction h with
  | refl => exact List.nil_subset _
  | tail _ hs ih =>
    obtain ⟨registry, files, hs⟩ := hs
    exact hs.rooted ih

theorem unrefused_of_answeredSteps : d.Unrefused := by
  induction h with
  | refl => exact fun _ he => nomatch he
  | tail hsteps hs ih =>
    obtain ⟨registry, files, hs⟩ := hs
    exact hs.unrefused (o.plan_unrefusing registry files) (reaches_of_answeredSteps hsteps).tracks
      (placed_of_answeredSteps hsteps) ih

/-- When all tasks are done, what is claimed is in the graph, and so are the entries. -/
theorem roots_subset_of_answeredSteps (hp : d.run.pending = []) (hd : d.done = []) :
    d.roots ⊆ d.run.graph.nodes.map Module.id := by
  have hreach := reaches_of_answeredSteps h
  obtain ⟨_, -, hbalance⟩ := hreach.balanced (Driver.clean_of_done_eq_nil hd)
  exact (rooted_of_answeredSteps h).subset_graph hreach.tracks hp hbalance.ids_eq

theorem graphTakes : o.GraphTakes directory d where
  free := fun r => (placed_of_answeredSteps h).free (reaches_of_answeredSteps h).tracks
  task := by
    rintro registry files r before later s hp rfl
    have hstep : o.AnsweredStep directory d _ := ⟨registry, files, .task hp⟩
    cases hv : value (process (o.plan registry files) r)
        (d.run.withPending (before ++ later)) with
    | ok cs =>
      obtain ⟨log, m, hmakes, -, -, hg, -⟩ := process_ok hv
      exact .inl ⟨m, hmakes.id_eq, hg⟩
    | error e =>
      refine .inr ⟨e, rfl, unrefused_of_answeredSteps (h.tail hstep) e ?_, ?_⟩
      · rw [← hv]
        exact List.mem_append_right _ (List.mem_singleton_self _)
      · exact process_failsClean _ r _ e hv
  entries := fun _ hp hd => roots_subset_of_answeredSteps h hp hd
  ends := fun registry files _ _ hends =>
    hends.unrefused (o.plan_unrefusing registry files) (unrefused_of_answeredSteps h)
      (roots_subset_of_answeredSteps h)

end

/-- Whatever its plugins and files answer and in whatever order its tasks run, no build asks its
graph for what the graph refuses, and none fails with a refusal. -/
theorem never_refused (o : BuildOptions) :
    (∀ files e, (o.build files).result = .error e → ¬ e.IsRefusal) ∧
      ∀ directory d, ReflTransGen (o.AnsweredStep directory) (Driver.start o.entries) d →
        o.GraphTakes directory d := by
  refine ⟨?_, fun directory d => graphTakes⟩
  intro files e h
  rcases error_of_build h with hv | hr | hd | ⟨registry, directory, -, hx⟩
  · exact validate_not_isRefusal hv
  · exact Registry.registerAll_not_isRefusal hr
  · exact directory_not_isRefusal hd
  · obtain ⟨d, hsteps, hends⟩ := (o.plan registry files).runs_build directory o.entries
    rw [hx] at hends
    exact (graphTakes (answeredSteps_of_steps hsteps)).ends registry files _ _ hends

/-- A build that ends at its limit, after three tasks, was refused nothing. -/
theorem never_refused_endless :
    ∃ files registry d s, (endless.build files).result = .error (.tooManyModules 3) ∧
      ¬ (BuildError.tooManyModules 3).IsRefusal ∧
      ReflTransGen (endless.AnsweredStep ⟨"/"⟩) (Driver.start endless.entries) d ∧
      d.Ends (endless.plan registry files) ⟨"/"⟩ (.error (.tooManyModules 3)) s ∧
      s.begun.length = 3 ∧ endless.GraphTakes ⟨"/"⟩ d := by
  let files := MemoryFiles.fileSystem ⟨⟨"/"⟩, []⟩
  have hregistry : ∃ registry, (Registry.ofSetups endless.plugins).result = .ok registry ∧
      value (Run.build (endless.plan registry files) endless.entries ⟨"/"⟩) {} =
        .error (.tooManyModules 3) ∧
      (state (Run.build (endless.plan registry files) endless.entries ⟨"/"⟩) {}).begun.length = 3 :=
    ⟨_, rfl, by cbv, by cbv⟩
  obtain ⟨registry, hsetup, hv, hb⟩ := hregistry
  have hbuild : (endless.build files).result = .error (.tooManyModules 3) := by
    rw [result_build ⟨by decide, hsetup, rfl⟩, hv]
    rfl
  obtain ⟨d, hsteps, hends⟩ := (endless.plan registry files).runs_build ⟨"/"⟩ endless.entries
  rw [hv] at hends
  have hanswered := answeredSteps_of_steps hsteps
  exact ⟨files, registry, d, _, hbuild, endless.never_refused.1 files _ hbuild, hanswered, hends,
    hb, endless.never_refused.2 _ d hanswered⟩

end BuildOptions

end BundleGraph
