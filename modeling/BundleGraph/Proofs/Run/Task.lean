import BundleGraph.Proofs.Graph.Changes
import BundleGraph.Proofs.Run.Memo

/-!
# The task of a resolution

The task of a claimed resolution has one place in the graph: when it succeeds it puts in one
module, which is determined by the resolution, by what was loaded and by the answers to the
requests of the imports; when it fails the graph is as before.

## Main definitions

* `BuildPlan.Makes` — the module that a task makes, given the answers to its requests.
* `Run.Begins`, `Run.process_begins` — what a task does to claims and to the record.
* `Run.process_ok`, `Run.process_failsClean` — what it does to the graph.
-/

namespace BundleGraph

/-- The task of `r`, whose requests were answered as `log` says, makes the module `m`. -/
inductive BuildPlan.Makes (p : BuildPlan) (r : Resolution) :
    List (ResolveRequest × Resolution) → Module → Prop where
  | external (h : r.external = true) : Makes p r [] (Module.ofExternal r.id r.pluginData)
  | loaded {loaded : LoadedModule} {cs : List (ImportRecord × Resolution)}
      (h : r.external = false) (hl : (p.load ⟨r.id, r.pluginData⟩).result = .ok loaded)
      (hi : Run.importsOf p r.id loaded = .ok (cs.map Prod.fst)) :
      Makes p r (cs.map fun c => (Run.requestOf r.id loaded c.1, c.2)) (Run.moduleOf r loaded cs)

namespace BuildPlan.Makes

variable {p : BuildPlan} {r : Resolution} {log : List (ResolveRequest × Resolution)} {m : Module}

theorem id_eq (h : p.Makes r log m) : m.id = r.id := by
  cases h <;> rfl

theorem isExternal_eq (h : p.Makes r log m) : m.isExternal = r.external := by
  cases h with
  | external h => exact h.symm
  | loaded h _ _ => exact h.symm

theorem isEntry_eq (h : p.Makes r log m) : m.isEntry = false := by
  cases h <;> rfl

/-- Each request of a task becomes an edge. -/
theorem dependencies_eq (h : p.Makes r log m) :
    m.dependencies = log.map fun a => ⟨a.1.specifier, a.1.kind, a.2.id⟩ := by
  cases h with
  | external h => rfl
  | loaded h hl hi =>
    simp only [Run.moduleOf, List.map_map]
    rfl

theorem dependencyIds_eq (h : p.Makes r log m) : m.dependencyIds = log.map fun a => a.2.id := by
  rw [Module.dependencyIds, h.dependencies_eq, List.map_map]
  rfl

end BuildPlan.Makes

namespace Run

open RunState

variable {α β : Type} {R : RunState → RunState → Prop} [IsPreorder RunState R]

/-- After loading, a task works, resolves requests and puts in a module. -/
theorem linkLoaded_within {p : BuildPlan}
    (hwork : ∀ {α : Type} (w : Work α), Within R (perform w))
    (hask : ∀ q, Within R (resolve p q)) (hadd : ∀ m, Within R (addModule m)) (r : Resolution)
    (loaded : LoadedModule) : Within R (linkLoaded p r loaded) := by
  refine (hwork _).bind fun rs => (resolveImports_within hask _ _ rs).bind fun cs => ?_
  exact (hwork _).bind fun _ => (hadd _).bind fun _ => Within.pure _

theorem processExternal_within (hwork : ∀ {α : Type} (w : Work α), Within R (perform w))
    (hadd : ∀ m, Within R (addModule m)) (r : Resolution) : Within R (processExternal r) :=
  (hwork _).bind fun _ => (hadd _).bind fun _ => Within.pure _

/-- The state in which the begin of a task is on record. -/
def withBegin (s : RunState) (r : Resolution) : RunState :=
  { s with acts := s.acts ++ [.began r] }

@[simp] theorem answered_withBegin (s : RunState) (r : Resolution) :
    (withBegin s r).answered = s.answered :=
  (answered_of_acts rfl).trans (List.append_nil _)
@[simp] theorem walkedLoads_withBegin (s : RunState) (r : Resolution) :
    (withBegin s r).walkedLoads = s.walkedLoads :=
  (walkedLoads_of_acts rfl).trans (List.append_nil _)
@[simp] theorem answered_load (p : BuildPlan) (q : LoadRequest) (s : RunState) :
    (state (load p q) s).answered = s.answered := by
  rw [state_load]
  exact (answered_of_acts rfl).trans (List.append_nil _)
@[simp] theorem walkedLoads_load (p : BuildPlan) (q : LoadRequest) (s : RunState) :
    (state (load p q) s).walkedLoads = s.walkedLoads ++ [q] := by
  rw [state_load]
  exact (walkedLoads_of_acts rfl).trans rfl

/-- A task begins, loads unless it is external, and goes on as above. -/
theorem process_within {p : BuildPlan} (hbegin : ∀ s r, R s (withBegin s r))
    (hload : ∀ q, Within R (load p q)) (hwork : ∀ {α : Type} (w : Work α), Within R (perform w))
    (hask : ∀ q, Within R (resolve p q)) (hadd : ∀ m, Within R (addModule m)) (r : Resolution) :
    Within R (process p r) := by
  refine Within.bind (fun s => hbegin s r) fun _ => ?_
  by_cases he : r.external = true
  · rw [if_pos he]
    exact processExternal_within hwork hadd r
  · rw [if_neg he]
    exact (hload _).bind fun loaded => linkLoaded_within hwork hask hadd r loaded

/-- After its begin, the task of an external resolution puts in a module, and any other task
loads and links one. -/
theorem process_eq (p : BuildPlan) (r : Resolution) (s : RunState) :
    value (process p r) s =
        value (if r.external then processExternal r else processLoaded p r) (withBegin s r) ∧
      state (process p r) s =
        state (if r.external then processExternal r else processLoaded p r) (withBegin s r) := by
  simp only [process, value_bind, state_bind, value_record, state_record, withBegin, and_self]

/-! ## Claims and the record -/

theorem perform_links (w : Work α) : Within Links (perform w) := by
  intro s
  rw [state_perform]
  exact ⟨rfl, rfl, rfl, rfl, List.prefix_rfl, fun h => h.of_eq rfl rfl⟩

theorem addModule_links (m : Module) : Within Links (addModule m) := by
  intro s
  rw [state_addModule]
  exact ⟨rfl, rfl, rfl, rfl, List.prefix_rfl, fun h => h.of_eq rfl rfl⟩

/-- The module that a task has the loaders walked for, if there is one. -/
def loadsOf (r : Resolution) : List LoadRequest :=
  if r.external then [] else [⟨r.id, r.pluginData⟩]

theorem loadsOf_external {r : Resolution} (h : r.external = true) : loadsOf r = [] :=
  if_pos h

theorem loadsOf_internal {r : Resolution} (h : ¬ r.external = true) :
    loadsOf r = [⟨r.id, r.pluginData⟩] :=
  if_neg h

/-- Of some resolutions, the loaders are walked for those that are not external. -/
theorem length_flatMap_loadsOf (rs : List Resolution) :
    (rs.flatMap loadsOf).length + (rs.map Resolution.external).count true = rs.length := by
  induction rs with
  | nil => rfl
  | cons r rs ih =>
    rw [List.flatMap_cons, List.length_append, List.map_cons, List.count_cons, List.length_cons]
    by_cases he : r.external = true
    · rw [loadsOf_external he, he]
      simp only [List.length_nil, beq_self_eq_true, if_true]
      omega
    · rw [loadsOf_internal he, Bool.eq_false_iff.mpr he]
      simp only [List.length_singleton, beq_iff_eq, Bool.false_eq_true, if_false]
      omega

/-- What a task does besides its work on the graph. -/
structure Begins (r : Resolution) (s t : RunState) : Prop where
  claimed : t.claimed = s.claimed
  pending : t.pending = s.pending
  begun : t.begun = s.begun ++ [r]
  walkedLoads : t.walkedLoads = s.walkedLoads ++ loadsOf r
  answered : s.answered <+: t.answered
  remembers : s.Remembers → t.Remembers

theorem Begins.links {r : Resolution} {s t u : RunState} (h : Begins r s t) (h' : Links t u) :
    Begins r s u :=
  ⟨h'.claimed.trans h.claimed, h'.pending.trans h.pending, h'.begun.trans h.begun,
    h'.walkedLoads.trans h.walkedLoads, h.answered.trans h'.answered,
    h'.remembers ∘ h.remembers⟩

/-- A task that is put on record begins, and walks the loaders when its module is loaded. -/
theorem Begins.of_acts {r : Resolution} {s t : RunState} {l : List Act}
    (h : t.acts = s.acts ++ .began r :: l) (hc : t.claimed = s.claimed)
    (hp : t.pending = s.pending) (hb : l.filterMap Act.begun? = [])
    (hl : l.filterMap Act.loaded? = loadsOf r) (hr : s.Remembers → t.Remembers) :
    Begins r s t where
  claimed := hc
  pending := hp
  begun := by
    have hr : Act.begun? (.began r) = some r := rfl
    rw [begun_of_acts h, List.filterMap_cons_some hr, hb]
  walkedLoads := by rw [walkedLoads_of_acts h, List.filterMap_cons_none rfl, hl]
  answered := by rw [answered_of_acts h]; exact List.prefix_append _ _
  remembers := hr

theorem process_begins (p : BuildPlan) (r : Resolution) : Within (Begins r) (process p r) := by
  intro s
  have hm : s.Remembers → (withBegin s r).Remembers := fun hs => hs.other rfl (by simp)
  rw [(process_eq p r s).2]
  by_cases he : r.external = true
  · have h₁ : Begins r s (withBegin s r) :=
      Begins.of_acts rfl rfl rfl rfl (loadsOf_external he).symm hm
    rw [if_pos he]
    exact h₁.links (processExternal_within perform_links addModule_links r _)
  · have h₂ : Begins r s (state (load p ⟨r.id, r.pluginData⟩) (withBegin s r)) := by
      rw [state_load]
      exact Begins.of_acts (List.append_assoc _ _ _) rfl rfl rfl (loadsOf_internal he).symm
        fun hs => ((hm hs).other rfl (by simp)).of_eq rfl rfl
    rw [if_neg he, processLoaded, state_bind, value_load]
    cases (p.load ⟨r.id, r.pluginData⟩).result with
    | error e => exact h₂
    | ok loaded =>
      exact h₂.links (linkLoaded_within perform_links (resolve_links p) addModule_links r loaded _)

/-- Tasks keep the record of walks honest. -/
theorem process_honest (p : BuildPlan) (r : Resolution) :
    Within (Carries (Honest p)) (process p r) := by
  refine process_within ?_ ?_ ?_ (resolve_honest p) ?_ r
  · intro s r' hs q x hx
    exact hs q x (by simpa [withBegin] using hx)
  · intro q s hs q' x hx
    rw [state_load] at hx
    exact hs q' x (by simpa using hx)
  · intro α w s hs
    rw [state_perform]
    exact hs
  · intro m s hs
    rw [state_addModule]
    exact hs

theorem process_tallied (p : BuildPlan) (r : Resolution) :
    Within (Carries Tallied) (process p r) := by
  refine process_within ?_ ?_ ?_ (resolve_tallied p) ?_ r
  · intro s r' hs
    rw [Tallied, answered_withBegin, walkedLoads_withBegin]
    exact hs
  · rintro q s ⟨hr, hl⟩
    rw [Tallied, answered_load, walkedLoads_load, state_load, List.length_append]
    exact ⟨hr, congrArg (· + 1) hl⟩
  · intro α w s hs
    rw [state_perform]
    exact hs
  · intro m s hs
    rw [state_addModule]
    exact hs

/-! ## The graph -/

theorem perform_sameGraph (w : Work α) : Within SameGraph (perform w) := by
  intro s
  rw [state_perform]
  rfl

@[simp] theorem graph_perform (w : Work α) (s : RunState) :
    (state (perform w) s).graph = s.graph := by rw [state_perform]
@[simp] theorem answered_perform (w : Work α) (s : RunState) :
    (state (perform w) s).answered = s.answered := by rw [state_perform]; rfl
@[simp] theorem answered_addModule (m : Module) (s : RunState) :
    (state (addModule m) s).answered = s.answered := by rw [state_addModule]; rfl
@[simp] theorem graph_load (p : BuildPlan) (q : LoadRequest) (s : RunState) :
    (state (load p q) s).graph = s.graph := by rw [state_load]
@[simp] theorem requests_perform (w : Work α) (s : RunState) :
    (state (perform w) s).requests = s.requests := by rw [state_perform]
@[simp] theorem requests_addModule (m : Module) (s : RunState) :
    (state (addModule m) s).requests = s.requests := by rw [state_addModule]
@[simp] theorem requests_load (p : BuildPlan) (q : LoadRequest) (s : RunState) :
    (state (load p q) s).requests = s.requests := by rw [state_load]

theorem addModule_ok {m : Module} {s : RunState} (he : m.isEntry = false)
    (h : value (addModule m) s = .ok ()) :
    m.id ∉ s.graph.nodes.map Module.id ∧ (state (addModule m) s).graph = s.graph.push m := by
  rw [value_addModule] at h
  rw [state_addModule]
  by_cases hm : m.id ∈ s.graph.nodes.map Module.id
  · rw [ModuleGraph.add_taken hm] at h
    cases h
  · rw [ModuleGraph.add_new he hm]
    exact ⟨hm, rfl⟩

theorem addModule_new {m : Module} {s : RunState} (he : m.isEntry = false)
    (h : m.id ∉ s.graph.nodes.map Module.id) : value (addModule m) s = .ok () := by
  rw [value_addModule, ModuleGraph.add_new he h]
  rfl

theorem addModule_error {m : Module} {s : RunState} {e : BuildError}
    (h : value (addModule m) s = .error e) : (state (addModule m) s).graph = s.graph := by
  rw [value_addModule] at h
  rw [state_addModule]
  cases hg : s.graph.add m with
  | ok g => rw [hg] at h; cases h
  | error e => rfl

/-- The imports of a loaded module are resolved, and then the module is put in. -/
theorem linkLoaded_ok {p : BuildPlan} {r : Resolution} {loaded : LoadedModule} {s : RunState}
    {cs : List Resolution} (h : value (linkLoaded p r loaded) s = .ok cs) :
    ∃ cs', importsOf p r.id loaded = .ok (cs'.map Prod.fst) ∧ cs = cs'.map Prod.snd ∧
      r.id ∉ s.graph.nodes.map Module.id ∧
      (state (linkLoaded p r loaded) s).graph = s.graph.push (moduleOf r loaded cs') ∧
      (state (linkLoaded p r loaded) s).answered =
        s.answered ++ (cs'.map fun c => (requestOf r.id loaded c.1, c.2)) ∧
      (state (linkLoaded p r loaded) s).requests = s.requests + cs'.length := by
  obtain ⟨rs, hrs, h, hs₁⟩ := value_bind_ok h
  obtain ⟨cs', hcs, h, hs₂⟩ := value_bind_ok h
  obtain ⟨_, _, h, hs₃⟩ := value_bind_ok h
  obtain ⟨_, hadd, h, hs₄⟩ := value_bind_ok h
  cases h
  obtain ⟨hfst, hans, hreq⟩ := answered_resolveImports hcs
  obtain ⟨hid, hst⟩ := addModule_ok rfl hadd
  have hg : (state (resolveImports p r.id loaded rs) _).graph = _ :=
    resolveImports_within (resolve_sameGraph p) r.id loaded rs
      (state (perform (Work.ofExcept (importsOf p r.id loaded))) s)
  rw [value_perform] at hrs
  rw [graph_perform, hg, graph_perform] at hid hst
  rw [linkLoaded, hs₁, hs₂, hs₃, hs₄, state_pure, hst, answered_addModule, answered_perform, hans,
    answered_perform, requests_addModule, requests_perform, hreq, requests_perform]
  exact ⟨cs', hfst ▸ hrs, rfl, hid, rfl, rfl, rfl⟩

/-- A task that succeeds puts in the module it makes, whose identity was not in the graph. -/
theorem process_ok {p : BuildPlan} {r : Resolution} {s : RunState} {cs : List Resolution}
    (h : value (process p r) s = .ok cs) :
    ∃ log m, p.Makes r log m ∧ cs = log.map Prod.snd ∧ r.id ∉ s.graph.nodes.map Module.id ∧
      (state (process p r) s).graph = s.graph.push m ∧
      (state (process p r) s).answered = s.answered ++ log ∧
      (state (process p r) s).requests = s.requests + log.length := by
  rw [(process_eq p r s).1] at h
  rw [(process_eq p r s).2]
  by_cases he : r.external = true
  · rw [if_pos he] at h ⊢
    obtain ⟨_, _, h, hs₁⟩ := value_bind_ok h
    obtain ⟨_, hadd, h, hs₂⟩ := value_bind_ok h
    cases h
    obtain ⟨hid, hst⟩ := addModule_ok rfl hadd
    rw [graph_perform] at hid hst
    rw [processExternal, hs₁, hs₂, state_pure, hst, answered_addModule, answered_perform,
      answered_withBegin, requests_addModule, requests_perform]
    exact ⟨[], _, .external he, rfl, hid, rfl, (List.append_nil _).symm, rfl⟩
  · rw [if_neg he] at h ⊢
    obtain ⟨loaded, hl, h, hs₁⟩ := value_bind_ok h
    obtain ⟨cs', hi, hcs, hid, hg, hans, hreq⟩ := linkLoaded_ok h
    rw [value_load] at hl
    rw [graph_load] at hid hg
    rw [answered_load, answered_withBegin] at hans
    rw [requests_load] at hreq
    rw [processLoaded, hs₁]
    refine ⟨_, _, .loaded (Bool.eq_false_iff.mpr he) hl hi, ?_, hid, hg, hans, ?_⟩
    · rw [hcs, List.map_map]
      rfl
    · rw [hreq, List.length_map]
      rfl

/-- The step leaves the graph as it was when it fails. -/
def FailsClean (m : Run α) : Prop :=
  ∀ s e, value m s = .error e → (state m s).graph = s.graph

theorem FailsClean.bind {m : Run α} {f : α → Run β} (hm : Within SameGraph m)
    (hf : ∀ a, FailsClean (f a)) : FailsClean (m >>= f) := by
  intro s e h
  rw [value_bind] at h
  rw [state_bind]
  cases hv : value m s with
  | error e => exact hm s
  | ok a =>
    rw [hv] at h
    exact (hf a _ e h).trans (hm s)

/-- To put in a module is the last that a task does to the graph. -/
theorem FailsClean.addModule (m : Module) (a : α) :
    FailsClean (do addModule m; return a) := by
  intro s e h
  rw [value_bind] at h
  rw [state_bind]
  cases hv : value (Run.addModule m) s with
  | error e => exact addModule_error hv
  | ok u => rw [hv] at h; cases h

/-- A task that fails leaves the graph as it was. -/
theorem process_failsClean (p : BuildPlan) (r : Resolution) : FailsClean (process p r) := by
  intro s e h
  rw [(process_eq p r s).1] at h
  rw [(process_eq p r s).2]
  have hext : FailsClean (processExternal r) :=
    .bind (perform_sameGraph _) fun _ => .addModule _ _
  have hlink : ∀ loaded, FailsClean (linkLoaded p r loaded) := fun loaded =>
    .bind (perform_sameGraph _) fun rs =>
      .bind (resolveImports_within (resolve_sameGraph p) _ _ rs) fun cs =>
        .bind (perform_sameGraph _) fun _ => .addModule _ _
  have hload : FailsClean (processLoaded p r) :=
    .bind (fun s => graph_load p _ s) hlink
  by_cases he : r.external = true
  · rw [if_pos he] at h ⊢
    exact hext _ e h
  · rw [if_neg he] at h ⊢
    exact hload _ e h

end Run

end BundleGraph
