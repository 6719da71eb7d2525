import BundleGraph.Proofs.Build.Completion
import BundleGraph.Proofs.Run.AtMostOnce
import BundleGraph.Proofs.Run.InOrder

/-!
# Where the records of a build come from

A module is loaded for the resolution that was claimed for it, and no later one changes its
record: contents, kind and loader come from that one walk through the loaders, the edges are the
imports that the scan of the contents gives, and the data is the loader's, or else the
resolution's.  This holds in whatever order the tasks run.

In a build that takes the first task claimed, the requests come breadth first: those of the
entries, and then those of each module in the order in which requests first led to the modules.
There the resolution that was claimed is the first one that led to the module.

## Main definitions

* `BuildPlan.Explains` — a resolution, what was loaded and some requests explain a module.
* `BuildPlan.MadeFor` — the module is what a resolution and one walk make it.
* `BuildPlan.Explained` — all modules of a run are what the resolutions claimed make them.
* `BuildOptions.Completes.explained` — this holds of every build that succeeds.
* `BuildPlan.BreadthFirst` — all modules of a run are explained by what led to them first.
* `BuildOptions.build_breadthFirst` — this holds of `BuildOptions.build`.
-/

namespace BundleGraph

open Run

/-- The module was loaded for the resolution `r` and makes the requests of `log`. -/
structure BuildPlan.Explains (p : BuildPlan) (r : Resolution) (loaded : LoadedModule)
    (log : List (ResolveRequest × Resolution)) (m : Module) : Prop where
  load_eq : (p.load ⟨m.id, r.pluginData⟩).result = .ok loaded
  contents_eq : m.contents = loaded.contents
  kind_eq : m.kind = loaded.kind
  loadedBy_eq : m.loadedBy = loaded.loadedBy
  pluginData_eq : m.pluginData = loaded.pluginData.or r.pluginData
  /-- The edges are the imports of the contents, in their order. -/
  scan_eq : scanImports? loaded.contents loaded.kind =
    some (m.dependencies.map fun d => ⟨d.specifier, d.kind⟩)
  /-- Each edge comes of a request. -/
  requests_eq : log.map Prod.fst =
    m.dependencies.map fun d => requestOf m.id loaded ⟨d.specifier, d.kind⟩
  resolved_eq : log.map (fun a => a.2.id) = m.dependencies.map Dependency.resolved

/-- In a run that ends in `s`, the module is what the resolution `r` and one walk through the
loaders make it. -/
structure BuildPlan.MadeFor (p : BuildPlan) (s : RunState) (r : Resolution)
    (log : List (ResolveRequest × Resolution)) (m : Module) : Prop where
  id_eq : m.id = r.id
  isExternal_eq : m.isExternal = r.external
  external : m.isExternal = true → log = []
  explains : m.isExternal = false → ∃ loaded, p.Explains r loaded log m
  walked : m.isExternal = false →
    s.walkedLoads.filter (fun l => l.id == m.id) = [⟨m.id, r.pluginData⟩]

/-- All modules of a run are what the resolutions that were claimed make them, in whatever order
their tasks began.  The requests are those of the entries, `read`, and those of each module,
`logs`. -/
structure BuildPlan.Explained (p : BuildPlan) (directory : Path) (entries : List String)
    (s : RunState) (read : List (ResolveRequest × Resolution))
    (logs : List (List (ResolveRequest × Resolution))) : Prop where
  answered_perm : s.answered.Perm (read ++ logs.flatten)
  read_eq : read.map Prod.fst = entries.map fun e => ResolveRequest.ofEntry e directory
  /-- What was claimed was the answer to a request. -/
  given : ∀ r ∈ s.begun, r ∈ s.answered.map Prod.snd
  /-- The modules stand in the order in which their tasks began. -/
  ids_eq : s.graph.nodes.map Module.id = s.begun.map Resolution.id
  /-- The modules are those that requests led to. -/
  ids_perm : (s.graph.nodes.map Module.id).Perm (s.answered.map fun a => a.2.id).eraseDups
  explained : List.Forall₂ (fun m log => ∃ r ∈ s.begun, p.MadeFor s r log m) s.graph.nodes logs
  /-- Requests of one key have one answer. -/
  agree : ∀ a ∈ s.answered, ∀ b ∈ s.answered, a.1.key = b.1.key → a.2 = b.2

/-- All modules of a run are explained by what led to them first.  The requests are those of
the entries, `read`, and those of each module, `logs`. -/
structure BuildPlan.BreadthFirst (p : BuildPlan) (directory : Path) (entries : List String)
    (s : RunState) (read : List (ResolveRequest × Resolution))
    (logs : List (List (ResolveRequest × Resolution))) : Prop where
  answered_eq : s.answered = read ++ logs.flatten
  read_eq : read.map Prod.fst = entries.map fun e => ResolveRequest.ofEntry e directory
  /-- The modules stand in the order in which requests first led to them. -/
  ids_eq : s.graph.nodes.map Module.id = (s.answered.map fun a => a.2.id).eraseDups
  /-- A module is what its first resolution and one walk through the loaders make it. -/
  explained : List.Forall₂
    (fun m log => ∃ q r, s.firstAnswer? m.id = some (q, r) ∧ p.MadeFor s r log m)
    s.graph.nodes logs
  /-- Requests of one key have one answer. -/
  agree : ∀ a ∈ s.answered, ∀ b ∈ s.answered, a.1.key = b.1.key → a.2 = b.2

/-- A task that follows imports explains the module it makes. -/
theorem BuildPlan.Makes.explains {p : BuildPlan} (hf : p.followImports = true) {r : Resolution}
    {log : List (ResolveRequest × Resolution)} {m : Module} (h : p.Makes r log m)
    (he : m.isExternal = false) : ∃ loaded, p.Explains r loaded log m := by
  cases h with
  | external h => cases he
  | @loaded loaded cs h hl hi =>
    refine ⟨loaded, ?_⟩
    have hscan : scanImports? loaded.contents loaded.kind = some (cs.map Prod.fst) := by
      rw [importsOf, if_pos hf] at hi
      cases hs : scanImports? loaded.contents loaded.kind with
      | none => rw [hs] at hi; cases hi
      | some rs => rw [hs] at hi; rw [Except.ok.inj hi]
    exact
      { load_eq := hl
        contents_eq := rfl
        kind_eq := rfl
        loadedBy_eq := rfl
        pluginData_eq := rfl
        scan_eq := by
          rw [hscan, moduleOf, List.map_map]
          rfl
        requests_eq := by
          rw [moduleOf, List.map_map, List.map_map]
          rfl
        resolved_eq := by
          rw [moduleOf, List.map_map, List.map_map]
          rfl }

theorem BuildPlan.Explains.markEntry {p : BuildPlan} {r : Resolution} {loaded : LoadedModule}
    {log : List (ResolveRequest × Resolution)} {m : Module} (h : p.Explains r loaded log m)
    (b : Bool) : p.Explains r loaded log { m with isEntry := b } :=
  ⟨h.load_eq, h.contents_eq, h.kind_eq, h.loadedBy_eq, h.pluginData_eq, h.scan_eq, h.requests_eq,
    h.resolved_eq⟩

/-- An external module makes no requests. -/
theorem BuildPlan.Makes.log_eq_nil {p : BuildPlan} {r : Resolution}
    {log : List (ResolveRequest × Resolution)} {m : Module} (h : p.Makes r log m)
    (he : m.isExternal = true) : log = [] := by
  cases h with
  | external h => rfl
  | loaded h hl hi => cases he

namespace BuildPlan.Complete

variable {p : BuildPlan} {directory : Path} {entries : List String} {s : RunState}
variable {read : List (String × Resolution)} {made : List p.Made}

theorem walkedLoads_ids_nodup (h : Complete directory entries s read made) :
    (s.walkedLoads.map LoadRequest.id).Nodup := by
  have hn := h.ids_nodup
  rw [ids_made] at hn
  rw [h.walkedLoads_eq, ← List.flatMap_map]
  exact RunState.nodup_flatMap_loadsOf hn

/-- When identities are walked for once, the walk of an identity is the only one. -/
theorem filter_eq_singleton {ls : List LoadRequest} (h : (ls.map LoadRequest.id).Nodup)
    {l : LoadRequest} (hl : l ∈ ls) : ls.filter (fun k => k.id == l.id) = [l] := by
  induction ls with
  | nil => cases hl
  | cons a ls ih =>
    rw [List.map_cons, List.nodup_cons] at h
    rcases List.mem_cons.mp hl with rfl | hl
    · rw [List.filter_cons_of_pos (by simp), List.filter_eq_nil_iff.mpr]
      intro k hk hi
      exact h.1 (List.mem_map.mpr ⟨k, hk, by simpa using hi⟩)
    · have hne : a.id ≠ l.id := fun hi => h.1 (hi ▸ List.mem_map_of_mem hl)
      rw [List.filter_cons_of_neg (by simpa using hne), ih h.2 hl]

/-- The loaders are walked once for a module that is not external. -/
theorem filter_walkedLoads (h : Complete directory entries s read made) {t : p.Made}
    (ht : t ∈ made) (he : t.resolution.external = false) :
    s.walkedLoads.filter (fun l => l.id == t.node.id) =
      [⟨t.node.id, t.resolution.pluginData⟩] := by
  rw [t.makes.id_eq]
  have hmem : (⟨t.resolution.id, t.resolution.pluginData⟩ : LoadRequest) ∈ s.walkedLoads := by
    rw [h.walkedLoads_eq, List.mem_flatMap]
    refine ⟨t, ht, ?_⟩
    rw [loadsOf_internal (Bool.eq_false_iff.mp he)]
    exact List.mem_singleton_self _
  exact filter_eq_singleton h.walkedLoads_ids_nodup hmem

/-- A module is what its task makes it, with the entries marked. -/
theorem madeFor (h : Complete directory entries s read made) (hf : p.followImports = true)
    {t : p.Made} (ht : t ∈ made) (b : Bool) :
    p.MadeFor s t.resolution t.log { t.node with isEntry := b } where
  id_eq := t.makes.id_eq
  isExternal_eq := t.makes.isExternal_eq
  external := t.makes.log_eq_nil
  explains he := by
    obtain ⟨loaded, hex⟩ := t.makes.explains hf he
    exact ⟨loaded, hex.markEntry b⟩
  walked he := h.filter_walkedLoads ht (t.makes.isExternal_eq.symm.trans he)

/-- One module stands for every identity that requests led to. -/
theorem nodes_ids_perm (h : Complete directory entries s read made) :
    (s.graph.nodes.map Module.id).Perm (s.answered.map fun a => a.2.id).eraseDups := by
  have hn := ModuleGraph.nodup_eraseDups (s.answered.map fun a => a.2.id)
  refine (List.perm_ext_iff_of_nodup h.nodes_ids_nodup hn).mpr fun i => ?_
  rw [List.mem_eraseDups, h.nodes_eq, List.map_map]
  constructor
  · intro hi
    obtain ⟨t, ht, rfl⟩ := List.mem_map.mp hi
    obtain ⟨a, ha, hr⟩ := List.mem_map.mp (h.given t ht)
    exact List.mem_map.mpr ⟨a, ha, (congrArg Resolution.id hr).trans t.makes.id_eq.symm⟩
  · intro hi
    obtain ⟨a, ha, rfl⟩ := List.mem_map.mp hi
    exact h.covered a.2 (List.mem_map_of_mem ha)

/-- A run that follows imports has all modules explained. -/
theorem explained (h : Complete directory entries s read made) (hf : p.followImports = true) :
    p.Explained directory entries s (entryLog directory read) (made.map (·.log)) where
  answered_perm := by
    rw [← List.flatMap_def]
    exact h.answered_perm
  read_eq := by
    rw [h.entries_eq, entryLog, List.map_map, List.map_map]
    rfl
  given := by
    intro r hr
    rw [h.begun_eq] at hr
    obtain ⟨t, ht, rfl⟩ := List.mem_map.mp hr
    exact h.given t ht
  ids_eq := by
    rw [h.nodes_eq, h.begun_eq, List.map_map, ← ids_made]
    rfl
  ids_perm := h.nodes_ids_perm
  explained := by
    rw [h.nodes_eq, List.forall₂_map_left_iff, List.forall₂_map_right_iff, List.forall₂_same]
    intro t ht
    refine ⟨t.resolution, ?_, h.madeFor hf ht _⟩
    rw [h.begun_eq]
    exact List.mem_map_of_mem ht
  agree := by
    rintro ⟨q, r⟩ ha ⟨q', r'⟩ hb hk
    exact h.remembers.eq_of_key ha hb hk

end BuildPlan.Complete

/-- When `Run.build` follows imports and succeeds, all modules are explained. -/
theorem BuildPlan.exists_breadthFirst {p : BuildPlan} {directory : Path} {entries : List String}
    (hf : p.followImports = true) (h : value (build p entries directory) {} = .ok ()) :
    ∃ read logs,
      p.BreadthFirst directory entries (state (build p entries directory) {}) read logs := by
  obtain ⟨read, made, hc, ha, hq⟩ := exists_inOrder h
  generalize state (build p entries directory) {} = s at hc ha hq
  have hall := hc.explained hf
  refine ⟨entryLog directory read, made.map (·.log), ?_, hall.read_eq, ?_, ?_, hall.agree⟩
  · rw [ha, List.flatMap_def]
  · rw [hall.ids_eq, hc.begun_eq, hq, ids_unclaimed_nil, List.map_map]
    rfl
  · rw [hc.nodes_eq, List.forall₂_map_left_iff, List.forall₂_map_right_iff, List.forall₂_same]
    intro t ht
    have hmem : t.resolution ∈ unclaimed [] (s.answered.map Prod.snd) := by
      rw [← hq]
      exact List.mem_map_of_mem ht
    obtain ⟨q, hfirst⟩ := RunState.firstAnswer?_of_mem hmem
    rw [← t.makes.id_eq] at hfirst
    exact ⟨q, t.resolution, hfirst, hc.madeFor hf ht _⟩

/-- In a build that follows imports and succeeds, in whatever order its tasks run, every module is
explained by the resolution that was claimed for it, by one walk through the loaders and by the
scan of what was loaded. -/
theorem BuildOptions.Completes.explained {o : BuildOptions} {files : FileSystem}
    {directory : Path} {s : RunState} (h : o.Completes files directory s)
    (hb : o.bundle = true) :
    ∃ registry read logs, o.Starts files registry directory ∧
      (o.plan registry files).Runs directory o.entries (.ok ()) s ∧
      (o.plan registry files).Explained directory o.entries s read logs := by
  obtain ⟨registry, hstarts, hruns⟩ := h
  obtain ⟨read, made, hc⟩ := hruns.complete
  exact ⟨registry, _, _, hstarts, hruns, hc.explained hb⟩

/-- In a build that follows imports and succeeds, every module is explained by the resolution
that led to it first, by one walk through the loaders and by the scan of what was loaded. -/
theorem BuildOptions.build_breadthFirst {o : BuildOptions} {files : FileSystem}
    {report : BuildReport} (h : (o.build files).result = .ok report) (hb : o.bundle = true) :
    ∃ registry directory s read logs, o.Starts files registry directory ∧
      ((o.plan registry files).execute o.entries directory).result = .ok s ∧
      report = o.report s ∧
      (o.plan registry files).BreadthFirst directory o.entries s read logs := by
  obtain ⟨registry, directory, hstarts, hv, rfl⟩ := build_ok_iff.mp h
  obtain ⟨read, logs, hex⟩ := BuildPlan.exists_breadthFirst hb hv
  exact ⟨registry, directory, _, read, logs, hstarts, execute_ok_iff.mpr ⟨hv, rfl⟩, rfl, hex⟩

/-- The build of a module that imports itself and an external one. -/
theorem BuildOptions.build_breadthFirst_circle :
    ∃ files report, (circle.build files).result = .ok report ∧ circle.bundle = true ∧
      ∃ registry directory s read logs, circle.Starts files registry directory ∧
        ((circle.plan registry files).execute circle.entries directory).result = .ok s ∧
        report = circle.report s ∧
        (circle.plan registry files).BreadthFirst directory circle.entries s read logs := by
  obtain ⟨report, h, -⟩ := circle_ok
  exact ⟨_, report, h, rfl, build_breadthFirst h rfl⟩

end BundleGraph
