import BundleGraph.Proofs.Build.Completion
import BundleGraph.Proofs.Import.Scan
import BundleGraph.Proofs.Plugin.Identity
import BundleGraph.Proofs.Run.Account

/-!
# The graph of a build is the closure of its entries

A build that succeeds has in its graph what its entries lead to, and nothing else.  Nothing is
missing, because every answer to a request is claimed sooner or later and every claim ends in
a module.  Nothing is too much, because only answers to requests are claimed, and a request
comes from the list of entries or from a module that was come to before.

## Main definitions

* `ModuleGraph.Imports` — one module imports another.
* `ModuleGraph.ClosureOf` — the graph is what some roots lead to, with modules in good order.
* `BuildOptions.Completes.closure_of_entries` — this holds of every build that succeeds.
-/

namespace BundleGraph

open Relation

namespace ModuleGraph

/-- The module of `i` has an edge to `j`. -/
def Imports (g : ModuleGraph) (i j : ModuleId) : Prop :=
  ∃ m ∈ g.nodes, m.id = i ∧ j ∈ m.dependencyIds

/-- The graph is what some roots lead to, with modules in good order. -/
structure ClosureOf (g : ModuleGraph) (roots : List ModuleId) : Prop where
  /-- Every edge leads to a module of the graph. -/
  closed : ∀ m ∈ g.nodes, ∀ d ∈ m.dependencies, ∃ n ∈ g.nodes, n.id = d.resolved
  /-- Every module is come to from an entry along edges. -/
  reachable : ∀ m ∈ g.nodes, ∃ i ∈ g.entryPoints, ReflTransGen g.Imports i m.id
  /-- The entries are the roots in their order, later repeats dropped. -/
  entryPoints_eq : g.entryPoints = roots.eraseDups
  /-- Every entry is a module of the graph. -/
  entries : ∀ i ∈ g.entryPoints, ∃ m ∈ g.nodes, m.id = i
  /-- Entries are marked, and no other modules are. -/
  isEntry_iff : ∀ m ∈ g.nodes, m.isEntry = true ↔ m.id ∈ g.entryPoints
  /-- External modules are empty. -/
  external : ∀ m ∈ g.nodes, m.isExternal = true →
    m.contents = "" ∧ m.dependencies = [] ∧ m.loadedBy = none
  /-- A module has one edge for a specifier. -/
  specifiers : ∀ m ∈ g.nodes, (m.dependencies.map Dependency.specifier).Nodup
  /-- To look a specifier up is to find its edge. -/
  dependency? : ∀ m ∈ g.nodes, ∀ d ∈ m.dependencies, m.dependency? d.specifier = some d
  /-- Identities are used once. -/
  ids_nodup : (g.nodes.map Module.id).Nodup
  /-- Identities have characters in both of their parts. -/
  valid : ∀ m ∈ g.nodes, m.id.Valid

end ModuleGraph

/-! ## The modules of tasks -/

namespace BuildPlan.Makes

variable {p : BuildPlan} {r : Resolution} {log : List (ResolveRequest × Resolution)} {m : Module}

/-- An external module has nothing that a loader gives. -/
theorem of_isExternal (h : p.Makes r log m) (he : m.isExternal = true) :
    m.contents = "" ∧ m.dependencies = [] ∧ m.loadedBy = none := by
  cases h with
  | external h => exact ⟨rfl, rfl, rfl⟩
  | loaded h _ _ => cases he

/-- The scan gives each specifier once, and each gets one edge. -/
theorem specifiers_nodup (h : p.Makes r log m) :
    (m.dependencies.map Dependency.specifier).Nodup := by
  cases h with
  | external h => exact List.nodup_nil
  | @loaded loaded cs h hl hi =>
    have hs : (cs.map fun c => c.1.specifier).Nodup := by
      rw [Run.importsOf] at hi
      split at hi
      · cases hscan : scanImports? loaded.contents loaded.kind with
        | none => rw [hscan] at hi; cases hi
        | some rs =>
          rw [hscan] at hi
          cases hi
          have hn := nodup_scanImports? hscan
          rw [List.map_map] at hn
          exact hn
      · injection hi with hi
        rw [List.map_eq_nil_iff.mp hi.symm]
        exact List.nodup_nil
    rw [Run.moduleOf, List.map_map]
    exact hs

end BuildPlan.Makes

/-- When specifiers are pairwise different, the first edge of a specifier is the only one. -/
theorem Module.dependency?_of_nodup {m : Module}
    (h : (m.dependencies.map Dependency.specifier).Nodup) {d : Dependency}
    (hd : d ∈ m.dependencies) : m.dependency? d.specifier = some d := by
  rw [dependency?]
  cases hf : m.dependencies.find? fun e => e.specifier == d.specifier with
  | none =>
    have hne := List.find?_eq_none.mp hf d hd
    simp at hne
  | some e =>
    have he : e.specifier = d.specifier := by simpa using List.find?_some hf
    exact congrArg some (List.inj_on_of_nodup_map h (List.mem_of_find?_eq_some hf) hd he)

/-! ## The graph of a complete build -/

namespace BuildPlan.Complete

variable {p : BuildPlan} {directory : Path} {entries : List String} {s : RunState}
variable {read : List (String × Resolution)} {made : List p.Made}

theorem mem_nodes (h : Complete directory entries s read made) {m : Module} :
    m ∈ s.graph.nodes ↔
      ∃ t ∈ made, m = { t.node with isEntry := decide (t.node.id ∈ read.map fun a => a.2.id) } := by
  rw [h.nodes_eq, List.mem_map]
  simp only [eq_comm]

/-- Every answer to a request has its module in the graph. -/
theorem exists_node (h : Complete directory entries s read made)
    {a : ResolveRequest × Resolution} (ha : a ∈ s.answered) :
    ∃ m ∈ s.graph.nodes, m.id = a.2.id := by
  obtain ⟨t, ht, hi⟩ := List.mem_map.mp (h.covered a.2 (List.mem_map_of_mem ha))
  exact ⟨_, h.mem_nodes.mpr ⟨t, ht, rfl⟩, hi⟩

/-- What was come to from the entries is reachable from them. -/
theorem reachable_of_led (h : Complete directory entries s read made) {r : Resolution}
    (hr : Led read made r) :
    ∃ i ∈ read.map fun a => a.2.id, ReflTransGen s.graph.Imports i r.id := by
  induction hr with
  | @entry a ha => exact ⟨a.2.id, List.mem_map_of_mem ha, .refl⟩
  | @child t a ht _ ha ih =>
    obtain ⟨i, hi, hsteps⟩ := ih
    refine ⟨i, hi, hsteps.tail ?_⟩
    refine ⟨_, h.mem_nodes.mpr ⟨t, ht, rfl⟩, t.makes.id_eq, ?_⟩
    change a.2.id ∈ t.node.dependencyIds
    rw [t.makes.dependencyIds_eq]
    exact List.mem_map_of_mem ha

theorem mem_entryPoints (h : Complete directory entries s read made) {i : ModuleId} :
    i ∈ s.graph.entryPoints ↔ i ∈ read.map fun a => a.2.id := by
  rw [h.entryPoints_eq, List.mem_eraseDups]

/-- The graph of a complete build is the closure of what its entries were resolved to. -/
theorem closureOf (h : Complete directory entries s read made)
    (hvalid : ∀ q r, (p.resolve q).result = .ok r → r.id.Valid) :
    s.graph.ClosureOf (read.map fun a => a.2.id) where
  closed := by
    intro m hm d hd
    obtain ⟨t, ht, rfl⟩ := h.mem_nodes.mp hm
    rw [t.makes.dependencies_eq] at hd
    obtain ⟨a, ha, rfl⟩ := List.mem_map.mp hd
    exact h.exists_node (h.mem_answered_of_log ht ha)
  reachable := by
    intro m hm
    obtain ⟨t, ht, rfl⟩ := h.mem_nodes.mp hm
    obtain ⟨i, hi, hsteps⟩ := h.reachable_of_led (h.led _ (h.given t ht))
    rw [← t.makes.id_eq] at hsteps
    exact ⟨i, h.mem_entryPoints.mpr hi, hsteps⟩
  entryPoints_eq := h.entryPoints_eq
  entries := by
    intro i hi
    obtain ⟨a, ha, rfl⟩ := List.mem_map.mp (h.mem_entryPoints.mp hi)
    exact h.exists_node (h.mem_answered_of_read ha)
  isEntry_iff := by
    intro m hm
    obtain ⟨t, ht, rfl⟩ := h.mem_nodes.mp hm
    rw [h.mem_entryPoints, decide_eq_true_iff]
  external := by
    intro m hm he
    obtain ⟨t, ht, rfl⟩ := h.mem_nodes.mp hm
    exact t.makes.of_isExternal he
  specifiers := by
    intro m hm
    obtain ⟨t, ht, rfl⟩ := h.mem_nodes.mp hm
    exact t.makes.specifiers_nodup
  dependency? := by
    intro m hm d hd
    obtain ⟨t, ht, rfl⟩ := h.mem_nodes.mp hm
    exact Module.dependency?_of_nodup t.makes.specifiers_nodup hd
  ids_nodup := h.nodes_ids_nodup
  valid := by
    intro m hm
    obtain ⟨t, ht, rfl⟩ := h.mem_nodes.mp hm
    obtain ⟨a, ha, hr⟩ := List.mem_map.mp (h.given t ht)
    have hans : (a.1, t.resolution) ∈ s.answered := by
      rw [← hr]
      exact ha
    obtain ⟨q, _, hq⟩ := h.remembers.exists_walk h.honest hans
    change t.node.id.Valid
    rw [t.makes.id_eq]
    exact hvalid q _ hq

end BuildPlan.Complete

/-- Whatever the plugins answer and in whatever order the tasks run, a build that succeeds has
the closure of its entries as its graph. -/
theorem BuildOptions.Completes.closure_of_entries {o : BuildOptions} {files : FileSystem}
    {directory : Path} {s : RunState} (h : o.Completes files directory s) :
    ∃ rs : List Resolution,
      List.Forall₂ (fun e r => (ResolveRequest.ofEntry e directory, r) ∈ s.answered) o.entries rs ∧
        (o.report s).graph.ClosureOf (rs.map Resolution.id) ∧
        (o.report s).entryPoints = (rs.map Resolution.id).eraseDups := by
  obtain ⟨registry, _, hruns⟩ := h
  obtain ⟨read, made, hc⟩ := hruns.complete
  have hclosure := hc.closureOf fun q r hr => Registry.resolve_valid hr
  have hids : (read.map Prod.snd).map Resolution.id = read.map fun a => a.2.id := List.map_map ..
  refine ⟨read.map Prod.snd, ?_, ?_, ?_⟩
  · rw [hc.entries_eq, List.forall₂_map_left_iff, List.forall₂_map_right_iff, List.forall₂_same]
    exact fun a ha => hc.mem_answered_of_read ha
  · rw [hids]
    exact hclosure
  · rw [hids]
    exact hclosure.entryPoints_eq

/-- A module that imports itself and an external one is the closure of an entry given twice. -/
theorem BuildOptions.closure_circle :
    ∃ files directory s, circle.Completes files directory s ∧
      (∃ rs : List Resolution,
        List.Forall₂ (fun e r => (ResolveRequest.ofEntry e directory, r) ∈ s.answered)
          circle.entries rs ∧
        (circle.report s).graph.ClosureOf (rs.map Resolution.id) ∧
        (circle.report s).entryPoints = (rs.map Resolution.id).eraseDups) ∧
      (circle.report s).graph.statistics = ⟨2, 1, 1, 2⟩ := by
  obtain ⟨report, h, hcounts⟩ := circle_ok
  obtain ⟨directory, s, hs, rfl⟩ := completes_of_build h
  exact ⟨_, directory, s, hs, hs.closure_of_entries, hcounts⟩

end BundleGraph
