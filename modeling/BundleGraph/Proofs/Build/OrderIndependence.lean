import BundleGraph.Build.Report
import BundleGraph.Proofs.Graph.Order
import BundleGraph.Proofs.Run.Demand
import Mathlib

/-!
# The order of tasks does not matter

When requests of one key fare alike, and requests that lead to one identity attach the same to
it, a build comes to the same in every order of its tasks: it succeeds in all of them or in
none, and when it succeeds, the graph, its entries and the counts are the same.

The tasks find each other in a different order every time, and which of several requests is
walked and which is answered from before differs as well.  What a task leaves behind does not:
its module, its requests and its walk through the loaders follow from its identity.  So the
tasks of two builds leave the same behind, up to their order, and the rest is counting.

## Main definitions

* `BuildPlan.Made.trace` — what a task leaves behind.
* `BuildPlan.Complete.trace_perm` — two builds that succeeded have the same traces.
* `BuildPlan.Runs.order_independent` — two builds come to the same.
-/

namespace BundleGraph

open Run

namespace BuildPlan

variable {p : BuildPlan} {directory : Path} {entries : List String}

/-- What a task leaves behind: its module, its requests and its walk through the loaders. -/
def Made.trace (t : p.Made) :
    Module × List (ResolveRequest × Resolution) × List LoadRequest :=
  (t.node, t.log, loadsOf t.resolution)

namespace Complete

variable {entries₁ entries₂ : List String} {s₁ s₂ : RunState}
variable {read₁ read₂ : List (String × Resolution)} {made₁ made₂ : List p.Made}

theorem trace_nodup (h₁ : Complete directory entries₁ s₁ read₁ made₁) :
    (made₁.map Made.trace).Nodup := by
  have hn := h₁.ids_nodup
  have hmap : made₁.map (·.node.id) = (made₁.map Made.trace).map fun a => a.1.id := by
    rw [List.map_map]
    rfl
  rw [hmap] at hn
  exact hn.of_map

/-- The entries are resolved alike. -/
theorem read_eq (hk : p.AnswersByKey) (h₁ : Complete directory entries s₁ read₁ made₁)
    (h₂ : Complete directory entries s₂ read₂ made₂) : read₁ = read₂ := by
  refine eq_of_map_fst (R := fun e r => p.Answers (ResolveRequest.ofEntry e directory) r)
    Answers.unique (h₁.entries_eq.symm.trans h₂.entries_eq) ?_ ?_
  · exact fun a ha => h₁.answers hk (h₁.mem_answered_of_read ha)
  · exact fun a ha => h₂.answers hk (h₂.mem_answered_of_read ha)

section
variable (hk : p.AnswersByKey) (h₁ : Complete directory entries₁ s₁ read₁ made₁)
  (h₂ : Complete directory entries₂ s₂ read₂ made₂)
include hk h₁ h₂

/-- An entry of both builds is resolved alike in both. -/
theorem mem_read {a : String × Resolution} (ha : a ∈ read₁) (he : a.1 ∈ entries₂) :
    a ∈ read₂ := by
  rw [h₂.entries_eq] at he
  obtain ⟨b, hb, hab⟩ := List.mem_map.mp he
  have hans := h₁.answers hk (h₁.mem_answered_of_read ha)
  have hans' := h₂.answers hk (h₂.mem_answered_of_read hb)
  rw [hab] at hans'
  rw [Prod.ext hab.symm (hans.unique hans')]
  exact hb

/-- What a task leaves behind that the other build needs too, a task of the other does. -/
theorem exists_trace (hi : p.NeedsById directory entries₂) {t₁ : p.Made} (ht₁ : t₁ ∈ made₁)
    (hn : p.Needs directory entries₂ t₁.resolution) :
    ∃ t₂ ∈ made₂, t₂.trace = t₁.trace := by
  obtain ⟨t₂, ht₂, hid, hext, hdata⟩ := h₂.exists_made hk hi hn
  obtain ⟨hlog, hnode⟩ := Yields.unique hid hext hdata (h₂.yields hk ht₂) (h₁.yields hk ht₁)
  refine ⟨t₂, ht₂, ?_⟩
  rw [Made.trace, Made.trace, hnode, hlog, loadsOf, loadsOf, hid, hext, hdata]

end

/-! ### Builds of the same entries, in whatever order and however often -/

section
variable (hk : p.AnswersByKey) (hi : p.NeedsById directory entries₂)
  (hE : ∀ e, e ∈ entries₁ ↔ e ∈ entries₂)
  (h₁ : Complete directory entries₁ s₁ read₁ made₁)
  (h₂ : Complete directory entries₂ s₂ read₂ made₂)
include hk hE h₁ h₂

theorem mem_read_iff {a : String × Resolution} : a ∈ read₁ ↔ a ∈ read₂ := by
  constructor
  · intro ha
    refine mem_read hk h₁ h₂ ha ((hE a.1).mp ?_)
    rw [h₁.entries_eq]
    exact List.mem_map_of_mem ha
  · intro ha
    refine mem_read hk h₂ h₁ ha ((hE a.1).mpr ?_)
    rw [h₂.entries_eq]
    exact List.mem_map_of_mem ha

theorem mem_roots_iff {i : ModuleId} :
    i ∈ read₁.map (fun a => a.2.id) ↔ i ∈ read₂.map fun a => a.2.id := by
  simp only [List.mem_map, mem_read_iff hk hE h₁ h₂]

include hi

/-- Two builds have tasks that leave the same behind, up to their order. -/
theorem trace_perm : (made₁.map Made.trace).Perm (made₂.map Made.trace) := by
  rw [List.perm_ext_iff_of_nodup h₁.trace_nodup h₂.trace_nodup]
  intro a
  simp only [List.mem_map]
  constructor
  · rintro ⟨t, ht, rfl⟩
    exact exists_trace hk h₁ h₂ hi ht ((h₁.needs hk ht).mono fun e => (hE e).mp)
  · rintro ⟨t, ht, rfl⟩
    exact exists_trace hk h₂ h₁ (hi.mono fun e => (hE e).mp) ht
      ((h₂.needs hk ht).mono fun e => (hE e).mpr)

theorem node_perm : (made₁.map (·.node)).Perm (made₂.map (·.node)) := by
  have h := (trace_perm hk hi hE h₁ h₂).map Prod.fst
  rw [List.map_map, List.map_map] at h
  exact h

theorem logs_perm : (made₁.flatMap (·.log)).Perm (made₂.flatMap (·.log)) := by
  have h := (trace_perm hk hi hE h₁ h₂).flatMap_right fun a => a.2.1
  rw [List.flatMap_map, List.flatMap_map] at h
  exact h

theorem mem_answered_iff {a : ResolveRequest × Resolution} :
    a ∈ s₁.answered ↔ a ∈ s₂.answered := by
  rw [h₁.answered_perm.mem_iff, h₂.answered_perm.mem_iff, List.mem_append, List.mem_append,
    (logs_perm hk hi hE h₁ h₂).mem_iff, entryLog, entryLog]
  simp only [List.mem_map, mem_read_iff hk hE h₁ h₂]

theorem loads_eq_loads : s₁.loads = s₂.loads := by
  have h := ((trace_perm hk hi hE h₁ h₂).flatMap_right fun a => a.2.2).length_eq
  rw [List.flatMap_map, List.flatMap_map] at h
  rw [h₁.loads_eq, h₂.loads_eq, h₁.walkedLoads_eq, h₂.walkedLoads_eq]
  exact h

/-- As many requests were walked, since their keys are the same. -/
theorem resolves_eq_resolves : s₁.resolves = s₂.resolves := by
  have hkeys : (s₁.answers.map Prod.fst).Perm (s₂.answers.map Prod.fst) := by
    rw [List.perm_ext_iff_of_nodup h₁.remembers.keys_nodup h₂.remembers.keys_nodup]
    intro k
    rw [h₁.remembers.mem_keys_iff, h₂.remembers.mem_keys_iff]
    simp only [List.mem_map, mem_answered_iff hk hi hE h₁ h₂]
  have hlen := hkeys.length_eq
  rw [List.length_map, List.length_map] at hlen
  rw [h₁.resolves_eq, h₂.resolves_eq, hlen]

/-- The requests differ by those of the entries that are repeated. -/
theorem requests_add_length_of_needsById :
    s₁.requests + entries₂.length = s₂.requests + entries₁.length := by
  have hlogs := (logs_perm hk hi hE h₁ h₂).length_eq
  rw [h₁.requests_eq, h₂.requests_eq, h₁.answered_perm.length_eq, h₂.answered_perm.length_eq,
    h₁.entries_eq, h₂.entries_eq, List.length_append, List.length_append, entryLog, entryLog,
    List.length_map, List.length_map, List.length_map, List.length_map, hlogs]
  omega

theorem nodes_perm_of_mem_iff : s₁.graph.nodes.Perm s₂.graph.nodes := by
  have hroots := fun i => mem_roots_iff (i := i) hk hE h₁ h₂
  have hmark : ∀ m : Module,
      (if m.id ∈ read₁.map (fun a => a.2.id) then m.markEntry else m) =
        if m.id ∈ read₂.map (fun a => a.2.id) then m.markEntry else m := by
    intro m
    rw [if_congr (hroots m.id) rfl rfl]
  have hmap := (node_perm hk hi hE h₁ h₂).map fun m =>
    if m.id ∈ read₁.map (fun a => a.2.id) then m.markEntry else m
  rw [List.map_congr_left (l := made₂.map (·.node)) fun m _ => hmark m] at hmap
  rw [h₁.graph_eq, h₂.graph_eq]
  exact hmap

omit hi in
theorem entryPoints_perm : s₁.graph.entryPoints.Perm s₂.graph.entryPoints := by
  rw [h₁.entryPoints_eq, h₂.entryPoints_eq]
  have hn := ModuleGraph.nodup_eraseDups
  refine (List.perm_ext_iff_of_nodup (hn _) (hn _)).mpr fun i => ?_
  simp only [List.mem_eraseDups]
  exact mem_roots_iff hk hE h₁ h₂

end

theorem requests_add_length (hk : p.AnswersByKey) (hi : p.AnswersById)
    (hE : ∀ e, e ∈ entries₁ ↔ e ∈ entries₂) (h₁ : Complete directory entries₁ s₁ read₁ made₁)
    (h₂ : Complete directory entries₂ s₂ read₂ made₂) :
    s₁.requests + entries₂.length = s₂.requests + entries₁.length :=
  requests_add_length_of_needsById hk hi.needsById hE h₁ h₂

section
variable (hk : p.AnswersByKey) (hi : p.AnswersById)
  (h₁ : Complete directory entries s₁ read₁ made₁)
  (h₂ : Complete directory entries s₂ read₂ made₂)
include hk hi h₁ h₂

theorem nodes_perm : s₁.graph.nodes.Perm s₂.graph.nodes :=
  nodes_perm_of_mem_iff hk hi.needsById (fun _ => Iff.rfl) h₁ h₂

theorem stats_eq : s₁.stats = s₂.stats := by
  rw [RunState.stats, RunState.stats, BuildStats.mk.injEq]
  refine ⟨(nodes_perm hk hi h₁ h₂).length_eq, ?_,
    resolves_eq_resolves hk hi.needsById (fun _ => Iff.rfl) h₁ h₂,
    loads_eq_loads hk hi.needsById (fun _ => Iff.rfl) h₁ h₂⟩
  exact Nat.add_right_cancel (requests_add_length hk hi (fun _ => Iff.rfl) h₁ h₂)

end

end Complete

/-- A feasible build succeeds, in whatever order. -/
theorem Runs.ok_of_feasible (hk : p.AnswersByKey) (hf : p.Feasible directory entries)
    {x : Except BuildError Unit} {s : RunState} (h : p.Runs directory entries x s) :
    x = .ok () := by
  obtain ⟨d, hsteps, hends⟩ := h
  exact hends.ok_of_feasible hk hsteps hf

/-- A build of entries that another build succeeded with succeeds. -/
theorem Runs.ok_of_subset {entries' : List String} (hk : p.AnswersByKey)
    (hi : p.NeedsById directory entries) (hE : entries' ⊆ entries) {s₁ s₂ : RunState}
    {x : Except BuildError Unit} (h₁ : p.Runs directory entries (.ok ()) s₁)
    (h₂ : p.Runs directory entries' x s₂) : x = .ok () := by
  obtain ⟨read, made, hc⟩ := h₁.complete
  exact h₂.ok_of_feasible hk ((hc.feasible_of_needsById hk hi).mono hE)

/-- A build succeeds in one order when it succeeds in another. -/
theorem Runs.ok_of_ok (hk : p.AnswersByKey) (hi : p.AnswersById) {s₁ s₂ : RunState}
    {x : Except BuildError Unit} (h₁ : p.Runs directory entries (.ok ()) s₁)
    (h₂ : p.Runs directory entries x s₂) : x = .ok () :=
  h₁.ok_of_subset hk hi.needsById (List.Subset.refl _) h₂

/-- In every order of its tasks a build comes to the same: it succeeds or not, and when it
does, the modules, the entries and the counts are the same. -/
theorem Runs.order_independent (hk : p.AnswersByKey) (hi : p.AnswersById) {s₁ s₂ : RunState}
    {x₁ x₂ : Except BuildError Unit} (h₁ : p.Runs directory entries x₁ s₁)
    (h₂ : p.Runs directory entries x₂ s₂) :
    (x₁ = .ok () ↔ x₂ = .ok ()) ∧
      (x₁ = .ok () → x₂ = .ok () →
        s₁.graph.modules = s₂.graph.modules ∧
        (∀ i, s₁.graph.module? i = s₂.graph.module? i) ∧
        s₁.graph.entryPoints = s₂.graph.entryPoints ∧
        s₁.stats = s₂.stats) := by
  constructor
  · constructor
    · rintro rfl
      exact h₁.ok_of_ok hk hi h₂
    · rintro rfl
      exact h₂.ok_of_ok hk hi h₁
  · rintro rfl rfl
    obtain ⟨read₁, made₁, hc₁⟩ := h₁.complete
    obtain ⟨read₂, made₂, hc₂⟩ := h₂.complete
    have hperm := Complete.nodes_perm hk hi hc₁ hc₂
    have hnodup := hc₁.nodes_ids_nodup
    refine ⟨ModuleGraph.modules_eq_of_perm hnodup hperm,
      ModuleGraph.module?_eq_of_perm hnodup hperm, ?_, Complete.stats_eq hk hi hc₁ hc₂⟩
    rw [hc₁.graph_eq, hc₂.graph_eq, graphOf, graphOf, Complete.read_eq hk hc₁ hc₂]

/-! ## Two orders -/

theorem circle_answersByKey : circle.AnswersByKey := by
  intro q q' h
  have hs : q.specifier = q'.specifier := congrArg ResolveKey.specifier h
  refine .inr ⟨_, rfl, ?_⟩
  rw [hs]
  rfl

theorem circle_answersById : circle.AnswersById := by
  rintro q q' r r' hr hr' hi
  cases hr
  cases hr'
  have hs : q.specifier = q'.specifier := congrArg ModuleId.path hi
  rw [hs]
  exact ⟨rfl, rfl⟩

open Driver in
/-- The second entry may be processed first. -/
theorem circle_runs_outside_first :
    ∃ x s, circle.Runs ⟨"/"⟩ ["circle", "outside"] x s ∧ x = .ok () ∧
      s.begun.map (·.id.path) = ["outside", "circle"] := by
  let circle' : Resolution := ⟨⟨"circle", "memory"⟩, false, none, none⟩
  let outside : Resolution := ⟨⟨"outside", "memory"⟩, true, none, none⟩
  refine ⟨_, _, ⟨_,
    .head (@Step.entry _ _ _ "circle" ["outside"] circle'.id rfl ?_) <|
    .head (@Step.entry _ _ _ "outside" [] outside.id rfl ?_) <|
    .head (@Step.task _ _ _ outside [circle'] [] ?_) <|
    .head (@Step.task _ _ _ circle' [] [] ?_) <|
    .head (@Step.handBack _ _ _ [circle', outside] [.ok []] [] rfl ?_ ?_) <|
    .head (@Step.handBack _ _ _ [] [] [] rfl ?_ rfl) .refl,
    .finish rfl ?_ ?_⟩, ?_, ?_⟩
  all_goals cbv

/-- Whichever of two entries is processed first, the build comes to the same. -/
theorem order_independent_circle :
    ∃ s₁ s₂, circle.Runs ⟨"/"⟩ ["circle", "outside"] (.ok ()) s₁ ∧
      circle.Runs ⟨"/"⟩ ["circle", "outside"] (.ok ()) s₂ ∧
      s₁.begun.map (·.id.path) = ["circle", "outside"] ∧
      s₂.begun.map (·.id.path) = ["outside", "circle"] ∧
      s₁.graph.modules = s₂.graph.modules ∧
      (∀ i, s₁.graph.module? i = s₂.graph.module? i) ∧
      s₁.graph.entryPoints = s₂.graph.entryPoints ∧ s₁.stats = s₂.stats := by
  have hv : value (build circle ["circle", "outside"] ⟨"/"⟩) {} = .ok () := by cbv
  have h₁ := runs_build circle ⟨"/"⟩ ["circle", "outside"]
  rw [hv] at h₁
  obtain ⟨x, s₂, h₂, rfl, hb⟩ := circle_runs_outside_first
  have h := h₁.order_independent circle_answersByKey circle_answersById h₂
  exact ⟨_, s₂, h₁, h₂, by cbv, hb, h.2 rfl rfl⟩

end BuildPlan

end BundleGraph
