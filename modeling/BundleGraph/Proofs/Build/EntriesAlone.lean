import BundleGraph.Proofs.Build.Composition
import BundleGraph.Proofs.Run.EntriesFirst
import BundleGraph.Proofs.Run.InOrder

/-!
# Builds of the entries alone

A build that does not follow imports comes to the entries of the build that does: each entry has
the module it has there, but no edges, and nothing else is in the graph.

The two builds make the same claims for their entries, since those are made before any import is
claimed and under the resolution of the first entry that leads to an identity.  What is done for
a claim is the same up to the imports, which the one build does not look for.  So what succeeds
in the build that follows imports succeeds without them, and there is room for it.

## Main definitions

* `BuildPlan.alone` — the plan that does not follow imports.
* `ModuleGraph.EntriesOf` — a graph is another one's entries, without edges.
* `BuildOptions.entries_alone` — what a build comes to that does not follow imports.
-/

namespace BundleGraph

open Relation Run

/-- The module without its edges. -/
def Module.alone (m : Module) : Module :=
  { m with dependencies := [] }

/-- The plan that does not follow imports. -/
def BuildPlan.alone (p : BuildPlan) : BuildPlan :=
  { p with followImports := false }

/-- The graph is what another one declares as entries, and each entry is what it is there but for
its edges, of which there are none. -/
structure ModuleGraph.EntriesOf (g h : ModuleGraph) : Prop where
  entryPoints_eq : g.entryPoints = h.entryPoints
  ids_perm : (g.nodes.map Module.id).Perm h.entryPoints
  module?_eq : ∀ i ∈ h.entryPoints, ∃ m, h.module? i = some m ∧ g.module? i = some m.alone

namespace BuildPlan

variable {p : BuildPlan} {directory : Path} {entries : List String} {s t : RunState}

/-! ## Tasks that do not follow imports -/

namespace Makes

variable {r : Resolution} {log log' : List (ResolveRequest × Resolution)} {m m' : Module}

/-- A task that makes a module makes it without its edges when imports are not followed. -/
theorem alone (h : p.Makes r log m) : p.alone.Makes r [] m.alone := by
  cases h with
  | external h => exact .external h
  | @loaded loaded cs h hl hi =>
    exact @Makes.loaded p.alone r loaded [] h hl rfl

theorem yields_alone (h : p.alone.Makes r log m) : p.alone.Yields r [] m := by
  rw [h.log_eq_nil_of_unfollowed rfl] at h
  exact ⟨h, nofun⟩

theorem eq_alone (h : p.Makes r log m) (h' : p.alone.Makes r log' m') : m' = m.alone :=
  (Yields.unique rfl rfl rfl h'.yields_alone h.alone.yields_alone).2

end Makes

/-! ## The build of the entries alone -/

namespace Complete

variable {read : List (String × Resolution)} {made : List p.Made} {more : List Resolution}

section
variable (hk : p.AnswersByKey) (h : Complete directory entries s read made)
  (hfirst : (made.map (·.resolution)).Perm (unclaimed [] (read.map Prod.snd) ++ more))
include hk h

/-- Entries that were read without following imports were read like this. -/
theorem read_prefix {d : Driver} {read' : List (String × Resolution)} {more' : List Resolution}
    (hsteps : ReflTransGen (Driver.Step p.alone directory) (Driver.start entries) d)
    (hd : Driver.EntriesFirst p.alone directory entries d read' more') : read' <+: read := by
  have heq := hd.entries_eq
  rw [h.entries_eq] at heq
  obtain ⟨l, later, rfl, hl, -⟩ := List.map_eq_append_iff.mp heq
  have hread : read' = l := by
    refine eq_of_map_fst (R := fun e r => p.Answers (ResolveRequest.ofEntry e directory) r)
      Answers.unique hl.symm (hd.answers (p := p.alone) hk hsteps) ?_
    exact fun a ha => h.read_answers hk a (List.mem_append_left _ ha)
  rw [hread]
  exact List.prefix_append _ _

include hfirst

/-- What is claimed without following imports has a task in the build that follows them. -/
theorem exists_made_of_claimed {d : Driver}
    (hsteps : ReflTransGen (Driver.Step p.alone directory) (Driver.start entries) d)
    {r : Resolution} (hr : r ∈ d.run.begun ++ d.run.pending) : ∃ t ∈ made, t.resolution = r := by
  obtain ⟨read', more', hd⟩ := Driver.exists_entriesFirst hsteps
  obtain ⟨later, rfl⟩ := h.read_prefix hk hsteps hd
  rw [hd.claims.mem_iff, hd.more_eq_nil (.inr rfl), List.append_nil] at hr
  have hmem : r ∈ made.map (·.resolution) := by
    rw [hfirst.mem_iff, List.map_append, unclaimed_append, List.append_assoc]
    exact List.mem_append_left _ hr
  exact List.mem_map.mp hmem

/-- Without following imports, a build that succeeds with them cannot fail. -/
theorem unfailing_alone : Driver.Unfailing p.alone directory entries where
  entry := by
    intro d read' made' e es hsteps hacc hu
    have ht := Driver.tracks_of_steps hsteps
    have hh := Driver.honest_of_steps hsteps
    have he : e ∈ entries := by
      rw [hacc.entries_eq, hu]
      exact List.mem_append_right _ List.mem_cons_self
    rw [h.entries_eq] at he
    obtain ⟨a, ha, rfl⟩ := List.mem_map.mp he
    have hans : p.alone.Answers (ResolveRequest.ofEntry a.1 directory) a.2 :=
      h.read_answers hk a ha
    obtain ⟨r, hr⟩ := exists_value_resolve ⟨_, hans⟩ d.run
    have hra : r = a.2 := (answers_of_value_resolve (p := p.alone) hk ht hh hr).unique hans
    have hl := resolve_links p.alone (ResolveRequest.ofEntry a.1 directory) d.run
    have hlen : (made.map (·.node.id)).length ≤ p.alone.maxModules := by
      rw [List.length_map]
      exact h.length_le
    refine exists_value_resolveEntry hr (claimAll_of_subset hlen (ht.links hl) ?_ ?_)
    · intro i hi
      rw [hl.claimed, ht.mem_claimed_iff] at hi
      obtain ⟨r', hr', rfl⟩ := List.mem_map.mp hi
      obtain ⟨t, ht, rfl⟩ := h.exists_made_of_claimed hk hfirst hsteps hr'
      rw [← t.makes.id_eq]
      exact List.mem_map_of_mem ht
    · intro r' hr'
      rw [List.mem_singleton.mp hr', hra]
      exact h.covered a.2 (List.mem_map_of_mem (h.mem_answered_of_read ha))
  task := by
    intro d read' made' r before later hsteps hacc hp
    have hr : r ∈ d.run.begun ++ d.run.pending := by
      rw [hp]
      exact List.mem_append_right _ (List.mem_append_right _ List.mem_cons_self)
    obtain ⟨t, -, rfl⟩ := h.exists_made_of_claimed hk hfirst hsteps hr
    exact hacc.exists_value_task hsteps hp t.makes.alone.yields_alone
  claims := by
    intro d read' made' cs hsteps hacc hu hd
    obtain ⟨_, _, hfirst'⟩ := Driver.exists_entriesFirst hsteps
    rw [hfirst'.done_eq_nil rfl cs hd]
    rfl

end

section
variable {read' : List (String × Resolution)} {made' : List p.alone.Made}

/-- The entries are read alike, whether imports are followed or not. -/
theorem read_eq_alone (hk : p.AnswersByKey) (h : Complete directory entries s read made)
    (h' : Complete (p := p.alone) directory entries t read' made') : read' = read :=
  eq_of_map_fst (R := fun e r => p.Answers (ResolveRequest.ofEntry e directory) r) Answers.unique
    (h'.entries_eq.symm.trans h.entries_eq) (h'.read_answers (p := p.alone) hk)
    (h.read_answers hk)

/-- Modules whose imports are not followed have no edges. -/
theorem dependencies_alone (h' : Complete (p := p.alone) directory entries t read made') :
    ∀ m ∈ t.graph.nodes, m.dependencies = [] := by
  intro m hm
  obtain ⟨t', -, rfl⟩ := h'.mem_nodes.mp hm
  change t'.node.dependencies = []
  rw [t'.makes.dependencies_eq, t'.makes.log_eq_nil_of_unfollowed rfl]
  rfl

/-- The requests are those of the entries when imports are not followed. -/
theorem requests_alone (h' : Complete (p := p.alone) directory entries t read made') :
    t.requests = entries.length := by
  have hlogs : made'.flatMap (·.log) = [] := by
    rw [List.flatMap_eq_nil_iff]
    exact fun t' _ => t'.makes.log_eq_nil_of_unfollowed rfl
  rw [h'.requests_eq, h'.answered_perm.length_eq, hlogs, List.append_nil, h'.entries_eq, entryLog,
    List.length_map, List.length_map]

/-- The identities that the entries lead to, each once. -/
theorem ids_first (read : List (String × Resolution)) :
    (unclaimed [] (read.map Prod.snd)).map Resolution.id =
      (read.map fun a => a.2.id).eraseDups := by
  rw [ids_unclaimed_nil, List.map_map]
  rfl

/-- When both have the tasks of the entries, the graph without imports is that of the entries. -/
theorem entriesOf (h : Complete directory entries s read made)
    (h' : Complete (p := p.alone) directory entries t read made')
    (hfirst : (made.map (·.resolution)).Perm (unclaimed [] (read.map Prod.snd) ++ more))
    (hfirst' : (made'.map (·.resolution)).Perm (unclaimed [] (read.map Prod.snd))) :
    t.graph.EntriesOf s.graph where
  entryPoints_eq := by rw [h.entryPoints_eq, h'.entryPoints_eq]
  ids_perm := by
    have hids := hfirst'.map Resolution.id
    rw [ids_first, ← ids_made] at hids
    rw [h.entryPoints_eq, h'.nodes_eq, List.map_map]
    exact hids
  module?_eq := by
    intro i hi
    rw [h.entryPoints_eq] at hi
    have hroot := List.mem_eraseDups.mp hi
    rw [← ids_first] at hi
    obtain ⟨r, hr, rfl⟩ := List.mem_map.mp hi
    obtain ⟨t₁, ht₁, h₁⟩ := List.mem_map.mp (hfirst.mem_iff.mpr (List.mem_append_left _ hr))
    obtain ⟨t₂, ht₂, rfl⟩ := List.mem_map.mp (hfirst'.mem_iff.mpr hr)
    have hnode : t₂.node = t₁.node.alone := by
      have hmakes := t₁.makes
      rw [h₁] at hmakes
      exact hmakes.eq_alone t₂.makes
    have hid : t₁.node.id = t₂.resolution.id := t₁.makes.id_eq.trans (congrArg _ h₁)
    refine ⟨{ t₁.node with isEntry := true }, ?_, ?_⟩
    · rw [ModuleGraph.module?_eq_some_iff h.nodes_ids_nodup]
      refine ⟨h.mem_nodes.mpr ⟨t₁, ht₁, ?_⟩, hid⟩
      rw [hid, decide_eq_true hroot]
    · rw [ModuleGraph.module?_eq_some_iff h'.nodes_ids_nodup]
      refine ⟨h'.mem_nodes.mpr ⟨t₂, ht₂, ?_⟩, hid⟩
      rw [t₂.makes.id_eq, decide_eq_true hroot, hnode]
      rfl

end

end Complete

end BuildPlan

namespace BuildOptions

variable {o : BuildOptions} {files : FileSystem} {directory : Path} {s : RunState}

/-- The options with imports followed or not. -/
def bundling (o : BuildOptions) (b : Bool) : BuildOptions :=
  { o with bundle := b }

/-- When requests of one key fare alike and the build that follows imports succeeds, the build that
does not succeeds as well.  Its graph is that of the entries, it makes one request for each of
them, and it has no edges. -/
theorem entries_alone
    (hk : ∀ registry, (Registry.ofSetups o.plugins).result = .ok registry →
      (o.plan registry files).AnswersByKey)
    (h : (o.bundling true).Completes files directory s) :
    (o.bundling false).AlwaysSucceeds files directory fun t =>
      t.graph.EntriesOf s.graph ∧ t.stats.resolveRequests = o.entries.length ∧
        t.graph.statistics.edgeCount = 0 := by
  obtain ⟨registry, hstarts, hruns⟩ := h
  let p := (o.bundling true).plan registry files
  have hk : p.AnswersByKey := hk registry hstarts.registered
  have hstarts' : (o.bundling false).Starts files registry directory :=
    ⟨hstarts.valid, hstarts.registered, hstarts.located⟩
  obtain ⟨read, made, more, hc, hfirst, -⟩ := hruns.complete_entriesFirst hk
  have hunfailing := hc.unfailing_alone hk hfirst
  refine hstarts'.alwaysSucceeds_of_ok (fun x t => hunfailing.ok) fun t hruns' => ?_
  change p.alone.Runs directory o.entries (.ok ()) t at hruns'
  obtain ⟨read', made', more', hc', hfirst', hmore⟩ :=
    hruns'.complete_entriesFirst (p := p.alone) hk
  cases hc.read_eq_alone hk hc'
  rw [hmore rfl, List.append_nil] at hfirst'
  refine ⟨hc.entriesOf hc' hfirst hfirst', hc'.requests_alone, ?_⟩
  rw [ModuleGraph.statistics, List.length_eq_zero_iff, List.flatMap_eq_nil_iff]
  exact hc'.dependencies_alone

/-- The build of `circle` has two modules and two edges; of its entry alone, it has no edge. -/
theorem entries_alone_circle :
    ∃ files directory s, (circle.bundling true).Completes files directory s ∧
      s.graph.statistics = ⟨2, 1, 1, 2⟩ ∧
      (circle.bundling false).AlwaysSucceeds files directory fun t =>
        t.graph.EntriesOf s.graph ∧ t.stats.resolveRequests = 2 ∧
          t.graph.statistics.edgeCount = 0 := by
  obtain ⟨report, h, hcounts⟩ := circle_ok
  obtain ⟨directory, s, hs, rfl⟩ := completes_of_build h
  exact ⟨_, directory, s, hs, hcounts, entries_alone (fun _ => circle_answersByKey _) hs⟩

end BuildOptions

end BundleGraph
