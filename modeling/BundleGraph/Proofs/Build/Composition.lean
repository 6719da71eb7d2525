import BundleGraph.Proofs.Build.Closure
import BundleGraph.Proofs.Build.MemoTransparency
import BundleGraph.Proofs.Build.OrderIndependence
import Mathlib

/-!
# Lists of entries compose

When requests of one key fare alike, and requests that lead to one identity attach the same to
it, a build of two lists of entries comes to the union of what the builds of each come to: every
module is as it is in either, and it is an entry if it is one in either.  What the lists share, a
module come to from both or an answer that the other half asked for, makes no difference.  So
entries may be repeated and put in another order as well.

## Main definitions

* `ModuleGraph.Unites` — a graph is the union of two others.
* `RunState.SameBuild` — two runs come to the same, but for the order of entries and the requests.
* `BuildOptions.on` — the options with other entries.
* `BuildOptions.AlwaysSucceeds` — a build succeeds in every order of its tasks.
* `BuildOptions.entries_compose` — the build of two lists of entries.
-/

namespace BundleGraph

open Run

/-- The identities in a graph. -/
def ModuleGraph.ids (g : ModuleGraph) : Finset ModuleId :=
  (g.nodes.map Module.id).toFinset

/-- The graph is the union of two others. -/
structure ModuleGraph.Unites (g a b : ModuleGraph) : Prop where
  ids_nodup : (g.nodes.map Module.id).Nodup
  ids_eq : g.ids = a.ids ∪ b.ids
  /-- A module is as it is in either, but for the mark of entries. -/
  record_eq : ∀ m ∈ g.nodes, ∀ n, n ∈ a.nodes ∨ n ∈ b.nodes → n.id = m.id →
    m = { n with isEntry := m.isEntry }
  /-- A module is an entry if it is one in either. -/
  isEntry_iff : ∀ m ∈ g.nodes, m.isEntry = true ↔
    ∃ n, (n ∈ a.nodes ∨ n ∈ b.nodes) ∧ n.id = m.id ∧ n.isEntry = true
  /-- The entries of the second come after those of the first. -/
  entryPoints_eq : g.entryPoints = a.entryPoints ++ b.entryPoints.filter (· ∉ a.entryPoints)

namespace BuildPlan

variable {p : BuildPlan} {directory : Path} {entries₁ entries₂ : List String}

namespace Complete

variable {s₁ s₂ s : RunState} {read₁ read₂ read : List (String × Resolution)}
variable {made₁ made₂ made : List p.Made}

/-- A module is marked when an entry leads to it. -/
theorem exists_entry_iff (h : Complete directory entries₁ s₁ read₁ made₁) {i : ModuleId} :
    (∃ n ∈ s₁.graph.nodes, n.id = i ∧ n.isEntry = true) ↔ i ∈ read₁.map fun a => a.2.id := by
  constructor
  · rintro ⟨n, hn, rfl, he⟩
    obtain ⟨t, ht, rfl⟩ := h.mem_nodes.mp hn
    exact of_decide_eq_true he
  · intro hi
    obtain ⟨a, ha, rfl⟩ := List.mem_map.mp hi
    obtain ⟨m, hm, hid⟩ := h.exists_node (h.mem_answered_of_read ha)
    obtain ⟨t, ht, rfl⟩ := h.mem_nodes.mp hm
    refine ⟨_, hm, hid, decide_eq_true ?_⟩
    rw [show t.node.id = a.2.id from hid]
    exact hi

section
variable (hk : p.AnswersByKey) (hi : p.AnswersById)
  (h₁ : Complete directory entries₁ s₁ read₁ made₁)
include hk hi h₁

/-- A module that other entries need too is in their build, but for its mark. -/
theorem exists_record (h₂ : Complete directory entries₂ s₂ read₂ made₂) {t : p.Made}
    (ht : t ∈ made₁) (hn : p.Needs directory entries₂ t.resolution) :
    ∃ b, { t.node with isEntry := b } ∈ s₂.graph.nodes := by
  obtain ⟨t', ht', htrace⟩ := exists_trace hk h₁ h₂ hi.needsById ht hn
  have hnode : t'.node = t.node := congrArg Prod.fst htrace
  rw [← hnode]
  exact ⟨_, h₂.mem_nodes.mpr ⟨t', ht', rfl⟩⟩

/-- The identity of what is needed is in the graph. -/
theorem id_mem_ids {r : Resolution} (hr : p.Needs directory entries₁ r) : r.id ∈ s₁.graph.ids := by
  obtain ⟨t, ht, hid, -⟩ := h₁.exists_made hk hi.needsById hr
  rw [ModuleGraph.ids, List.mem_toFinset, ← hid, ← t.makes.id_eq]
  exact List.mem_map.mpr ⟨_, h₁.mem_nodes.mpr ⟨t, ht, rfl⟩, rfl⟩

/-- All that two lists of entries need can be had together, if there is room for it. -/
theorem feasible_append (h₂ : Complete directory entries₂ s₂ read₂ made₂)
    (hroom : (s₁.graph.ids ∪ s₂.graph.ids).card ≤ p.maxModules) :
    p.Feasible directory (entries₁ ++ entries₂) := by
  have hlen : (s₁.graph.ids ∪ s₂.graph.ids).toList.length ≤ p.maxModules := by
    rwa [Finset.length_toList]
  refine (h₁.feasible hk hi).append (h₂.feasible hk hi) hlen ?_
  rintro r (hr | hr)
  · exact Finset.mem_toList.mpr (Finset.mem_union_left _ (h₁.id_mem_ids hk hi hr))
  · exact Finset.mem_toList.mpr (Finset.mem_union_right _ (h₂.id_mem_ids hk hi hr))

/-- A module of fewer entries is in the build of more, but for its mark. -/
theorem exists_record_of_subset (h₂ : Complete directory entries₂ s₂ read₂ made₂)
    (hE : entries₁ ⊆ entries₂) {n : Module} (hn : n ∈ s₁.graph.nodes) :
    ∃ b, { n with isEntry := b } ∈ s₂.graph.nodes := by
  obtain ⟨t, ht, rfl⟩ := h₁.mem_nodes.mp hn
  exact exists_record hk hi h₁ h₂ ht ((h₁.needs hk ht).mono hE)

/-- A module of more entries is as it is in the build of fewer, but for its mark. -/
theorem record_eq_of_subset (h₂ : Complete directory entries₂ s₂ read₂ made₂)
    (hE : entries₁ ⊆ entries₂) {m n : Module} (hm : m ∈ s₂.graph.nodes) (hn : n ∈ s₁.graph.nodes)
    (hid : n.id = m.id) : m = { n with isEntry := m.isEntry } := by
  obtain ⟨b, hb⟩ := exists_record_of_subset hk hi h₁ h₂ hE hn
  rw [ModuleGraph.eq_of_id_eq h₂.nodes_ids_nodup hm hb hid.symm]

end

section
variable (hk : p.AnswersByKey) (h₁ : Complete directory entries₁ s₁ read₁ made₁)
  (h₂ : Complete directory entries₂ s₂ read₂ made₂)
  (h : Complete directory (entries₁ ++ entries₂) s read made)
include hk h₁ h₂ h

/-- The entries of two lists are resolved as those of each. -/
theorem read_append : read = read₁ ++ read₂ := by
  refine eq_of_map_fst (R := fun e r => p.Answers (ResolveRequest.ofEntry e directory) r)
    Answers.unique ?_ ?_ ?_
  · rw [← h.entries_eq, List.map_append, ← h₁.entries_eq, ← h₂.entries_eq]
  · exact fun a ha => h.answers hk (h.mem_answered_of_read ha)
  · intro a ha
    rcases List.mem_append.mp ha with ha | ha
    · exact h₁.answers hk (h₁.mem_answered_of_read ha)
    · exact h₂.answers hk (h₂.mem_answered_of_read ha)

/-- The build of two lists of entries comes to the union of what each comes to. -/
theorem unites (hi : p.AnswersById) : s.graph.Unites s₁.graph s₂.graph where
  ids_nodup := h.nodes_ids_nodup
  ids_eq := by
    ext i
    simp only [Finset.mem_union, ModuleGraph.ids, List.mem_toFinset, List.mem_map]
    constructor
    · rintro ⟨m, hm, rfl⟩
      obtain ⟨t, ht, rfl⟩ := h.mem_nodes.mp hm
      rcases needs_append_iff.mp (h.needs hk ht) with hn | hn
      · obtain ⟨b, hb⟩ := exists_record hk hi h h₁ ht hn
        exact .inl ⟨_, hb, rfl⟩
      · obtain ⟨b, hb⟩ := exists_record hk hi h h₂ ht hn
        exact .inr ⟨_, hb, rfl⟩
    · rintro (⟨n, hn, rfl⟩ | ⟨n, hn, rfl⟩)
      · obtain ⟨b, hb⟩ := exists_record_of_subset hk hi h₁ h (List.subset_append_left _ _) hn
        exact ⟨_, hb, rfl⟩
      · obtain ⟨b, hb⟩ := exists_record_of_subset hk hi h₂ h (List.subset_append_right _ _) hn
        exact ⟨_, hb, rfl⟩
  record_eq := by
    rintro m hm n (hn | hn) hid
    · exact record_eq_of_subset hk hi h₁ h (List.subset_append_left _ _) hm hn hid
    · exact record_eq_of_subset hk hi h₂ h (List.subset_append_right _ _) hm hn hid
  isEntry_iff := by
    intro m hm
    obtain ⟨t, ht, rfl⟩ := h.mem_nodes.mp hm
    have hroots₁ := h₁.exists_entry_iff (i := t.node.id)
    have hroots₂ := h₂.exists_entry_iff (i := t.node.id)
    simp only [or_and_right, exists_or, hroots₁, hroots₂, decide_eq_true_iff,
      read_append hk h₁ h₂ h, List.map_append, List.mem_append]
  entryPoints_eq := by
    rw [h.entryPoints_eq, h₁.entryPoints_eq, h₂.entryPoints_eq, read_append hk h₁ h₂ h,
      List.map_append, List.eraseDups_append, ModuleGraph.filter_eraseDups, List.removeAll]
    congr 2
    apply List.filter_congr
    intro i _
    simp only [List.mem_eraseDups, decide_not, List.elem_eq_mem]

end

end Complete

end BuildPlan

/-- Two runs have the same modules and entries, and the same counts but for that of requests. -/
structure RunState.SameBuild (s t : RunState) : Prop where
  modules_eq : s.graph.modules = t.graph.modules
  module?_eq : ∀ i, s.graph.module? i = t.graph.module? i
  entryPoints_perm : s.graph.entryPoints.Perm t.graph.entryPoints
  stats_eq : s.stats = { t.stats with resolveRequests := s.stats.resolveRequests }

section
variable {p : BuildPlan} {directory : Path} {entries₁ entries₂ : List String} {s₁ s₂ : RunState}
variable {read₁ read₂ : List (String × Resolution)} {made₁ made₂ : List p.Made}

/-- Builds of the same entries, in whatever order and however often, come to the same when what
they need agrees under one identity. -/
theorem BuildPlan.Complete.sameBuild_of_needsById (hk : p.AnswersByKey)
    (hi : p.NeedsById directory entries₂) (hE : ∀ e, e ∈ entries₁ ↔ e ∈ entries₂)
    (h₁ : Complete directory entries₁ s₁ read₁ made₁)
    (h₂ : Complete directory entries₂ s₂ read₂ made₂) : s₁.SameBuild s₂ where
  modules_eq := ModuleGraph.modules_eq_of_perm h₁.nodes_ids_nodup
    (nodes_perm_of_mem_iff hk hi hE h₁ h₂)
  module?_eq := ModuleGraph.module?_eq_of_perm h₁.nodes_ids_nodup
    (nodes_perm_of_mem_iff hk hi hE h₁ h₂)
  entryPoints_perm := entryPoints_perm hk hE h₁ h₂
  stats_eq := by
    rw [RunState.stats, RunState.stats, BuildStats.mk.injEq]
    exact ⟨(nodes_perm_of_mem_iff hk hi hE h₁ h₂).length_eq, rfl,
      resolves_eq_resolves hk hi hE h₁ h₂, loads_eq_loads hk hi hE h₁ h₂⟩

theorem BuildPlan.Complete.sameBuild (hk : p.AnswersByKey) (hi : p.AnswersById)
    (hE : ∀ e, e ∈ entries₁ ↔ e ∈ entries₂) (h₁ : Complete directory entries₁ s₁ read₁ made₁)
    (h₂ : Complete directory entries₂ s₂ read₂ made₂) : s₁.SameBuild s₂ :=
  h₁.sameBuild_of_needsById hk hi.needsById hE h₂

end

namespace BuildOptions

/-- The options with other entries. -/
def on (o : BuildOptions) (entries : List String) : BuildOptions :=
  { o with entries }

variable {o : BuildOptions} {files : FileSystem} {directory : Path} {A B : List String}

/-- The build succeeds, in whatever order of its tasks, and comes to what is described. -/
def AlwaysSucceeds (o : BuildOptions) (files : FileSystem) (directory : Path)
    (P : RunState → Prop) : Prop :=
  (∃ s, (o.build files).result = .ok (o.report s) ∧ P s) ∧
    ∀ x s, o.ComesTo files directory x s → x = .ok () ∧ P s

variable {registry : Registry}

/-- Without a single output file, entries are in order when there are some and none is blank. -/
theorem validate_on_iff (ho : o.outfile = none) :
    (o.on A).validate = .ok () ↔
      A ≠ [] ∧ (∀ e ∈ A, Text.isBlankText e = false) ∧ o.maxModules ≠ 0 := by
  have hblank : (∃ e ∈ A, Text.isBlankText e = true) ↔
      ¬ ∀ e ∈ A, Text.isBlankText e = false := by simp
  simp only [validate, on, ho, List.isEmpty_iff, List.any_eq_true, hblank, Option.isSome_none,
    Bool.and_false, Bool.false_and, Bool.false_eq_true, if_false]
  split_ifs <;> simp_all

/-- Builds of other entries start with the same plugins. -/
theorem Starts.registry_eq {registry' : Registry} {directory' : Path}
    (h : (o.on A).Starts files registry directory)
    (h' : (o.on B).Starts files registry' directory') : registry' = registry :=
  Except.ok.inj (h'.registered.symm.trans h.registered)

/-- What can be built from some entries can be built from others that are in order. -/
theorem Starts.on (h : (o.on A).Starts files registry directory)
    (hv : (o.on B).validate = .ok ()) : (o.on B).Starts files registry directory :=
  ⟨hv, h.registered, h.located⟩

/-- A build that can start and whose run succeeds in whatever order succeeds so. -/
theorem Starts.alwaysSucceeds_of_ok (h : o.Starts files registry directory)
    (hok : ∀ x s, (o.plan registry files).Runs directory o.entries x s → x = .ok ())
    {P : RunState → Prop}
    (hP : ∀ s, (o.plan registry files).Runs directory o.entries (.ok ()) s → P s) :
    o.AlwaysSucceeds files directory P := by
  constructor
  · have hruns := BuildPlan.runs_build (o.plan registry files) directory o.entries
    have hv := hok _ _ hruns
    rw [hv] at hruns
    refine ⟨_, ?_, hP _ hruns⟩
    rw [result_build h, hv]
    rfl
  · rintro x s ⟨registry', h', hruns⟩
    cases h.registry_eq h'
    cases hok _ _ hruns
    exact ⟨rfl, hP s hruns⟩

/-- A feasible build that can start succeeds, in whatever order of its tasks. -/
theorem Starts.alwaysSucceeds (h : o.Starts files registry directory)
    (hk : (o.plan registry files).AnswersByKey)
    (hf : (o.plan registry files).Feasible directory o.entries) {P : RunState → Prop}
    (hP : ∀ s, (o.plan registry files).Runs directory o.entries (.ok ()) s → P s) :
    o.AlwaysSucceeds files directory P :=
  h.alwaysSucceeds_of_ok (fun _ _ hruns => hruns.ok_of_feasible hk hf) hP

/-- When requests of one key fare alike, and requests that lead to one identity attach the same to
it, lists of entries compose.  From both lists a build comes to the union of what it comes to from
each, if there is room for it.  From the same entries in another order, or given more often, it
comes to the same, but for the order of the entries and one more request for each one more. -/
theorem entries_compose {a b : RunState}
    (hk : ∀ registry, (Registry.ofSetups o.plugins).result = .ok registry →
      (o.plan registry files).AnswersByKey)
    (hi : ∀ registry, (Registry.ofSetups o.plugins).result = .ok registry →
      (o.plan registry files).AnswersById)
    (ho : o.outfile = none) (hA : (o.on A).Completes files directory a)
    (hB : (o.on B).Completes files directory b)
    (hroom : (a.graph.ids ∪ b.graph.ids).card ≤ o.maxModules) :
    (o.on (A ++ B)).AlwaysSucceeds files directory (fun s => s.graph.Unites a.graph b.graph) ∧
      ∀ E, (∀ e, e ∈ E ↔ e ∈ A) → (o.on E).AlwaysSucceeds files directory fun s =>
        s.SameBuild a ∧
          s.stats.resolveRequests + A.length = a.stats.resolveRequests + E.length := by
  obtain ⟨registry, hstartsA, hrunsA⟩ := hA
  obtain ⟨registry', hstartsB, hrunsB⟩ := hB
  cases hstartsA.registry_eq hstartsB
  have hk := hk registry hstartsA.registered
  have hi := hi registry hstartsA.registered
  obtain ⟨readA, madeA, hcA⟩ := hrunsA.complete
  obtain ⟨readB, madeB, hcB⟩ := hrunsB.complete
  obtain ⟨hneA, hblankA, hmax⟩ := (validate_on_iff ho).mp hstartsA.valid
  obtain ⟨-, hblankB, -⟩ := (validate_on_iff ho).mp hstartsB.valid
  constructor
  · have hvalid : (o.on (A ++ B)).validate = .ok () :=
      (validate_on_iff ho).mpr ⟨fun h => hneA (List.append_eq_nil_iff.mp h).1,
        fun e he => (List.mem_append.mp he).elim (hblankA e) (hblankB e), hmax⟩
    have hfeasible := hcA.feasible_append hk hi hcB hroom
    refine (hstartsA.on hvalid).alwaysSucceeds hk hfeasible fun s hruns => ?_
    obtain ⟨read, made, hc⟩ := hruns.complete
    exact hcA.unites hk hcB hc hi
  · intro E hE
    obtain ⟨e, he⟩ := List.exists_mem_of_ne_nil A hneA
    have hvalid : (o.on E).validate = .ok () :=
      (validate_on_iff ho).mpr ⟨List.ne_nil_of_mem ((hE e).mpr he),
        fun e he => hblankA e ((hE e).mp he), hmax⟩
    have hfeasible := (hcA.feasible hk hi).mono fun e he => (hE e).mp he
    refine (hstartsA.on hvalid).alwaysSucceeds hk hfeasible fun s hruns => ?_
    obtain ⟨read, made, hc⟩ := hruns.complete
    exact ⟨hc.sameBuild hk hi hE hcA, hc.requests_add_length hk hi hE hcA⟩

/-- Two requests that lead to one identity in `circle` have one specifier. -/
theorem circle_answersById (files : FileSystem) {registry : Registry}
    (h : (Registry.ofSetups circle.plugins).result = .ok registry) :
    (circle.plan registry files).AnswersById := by
  intro q q' r r' hr hr' hid
  rw [BuildPlan.Answers, circle_answer files h] at hr hr'
  cases Resolution.ofPlugin_eq hr
  cases Resolution.ofPlugin_eq hr'
  have hs : q.specifier = q'.specifier := congrArg ModuleId.path hid
  rw [hs]
  exact ⟨rfl, rfl⟩

/-- Builds of `a` and of `b` share two modules; a build of both makes four. -/
theorem entries_compose_circle :
    ∃ files a b, (circle.on ["a"]).Completes files ⟨"/"⟩ a ∧
      (circle.on ["b"]).Completes files ⟨"/"⟩ b ∧
      (a.graph.ids ∪ b.graph.ids).card = 4 ∧
      (circle.on ["a", "b"]).AlwaysSucceeds files ⟨"/"⟩
        (fun s => s.graph.Unites a.graph b.graph) ∧
      (circle.on ["a", "a"]).AlwaysSucceeds files ⟨"/"⟩ fun s =>
        s.SameBuild a ∧ s.stats.resolveRequests + 1 = a.stats.resolveRequests + 2 := by
  let files := MemoryFiles.fileSystem ⟨⟨"/"⟩, []⟩
  obtain ⟨a, b, hA, hB, hcard⟩ : ∃ a b, (circle.on ["a"]).Completes files ⟨"/"⟩ a ∧
      (circle.on ["b"]).Completes files ⟨"/"⟩ b ∧ (a.graph.ids ∪ b.graph.ids).card = 4 :=
    ⟨_, _, Starts.completes ⟨by decide, rfl, rfl⟩ (by cbv),
      Starts.completes ⟨by decide, rfl, rfl⟩ (by cbv), by cbv⟩
  obtain ⟨hunion, hrepeat⟩ := entries_compose (fun _ => circle_answersByKey files)
    (fun _ => circle_answersById files) rfl hA hB (by rw [hcard]; decide)
  exact ⟨files, a, b, hA, hB, hcard, hunion, hrepeat ["a", "a"] (by simp)⟩

end BuildOptions

end BundleGraph
