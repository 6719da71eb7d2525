import BundleGraph.Build.Report
import BundleGraph.Proofs.Run.Account

/-!
# What a run tells

A walk through the resolvers that ends in an answer tells of it once, when a handler or the default
resolver gave it, and besides tells only of handlers that were passed over; so does a walk through
the loaders.  A request that is answered from before tells nothing.  A task tells of its module
after the walks that it made, right before the module is put into the graph.  So as long as no task
has failed, the counts of a run and its graph can be read off its notes after every step.

## Main definitions

* `Event.topic` — what a reader of a log learns from an event.
* `BuildPlan.Telling` — walks that end in an answer tell of it once.
* `RunState.Tells` — the notes of a run account for its counts and its graph.
* `Driver.Step.tells` — every step keeps this, unless a task fails.
-/

namespace BundleGraph

open Run

/-- What a reader of a log learns from an event. -/
inductive Topic where
  | registration
  /-- A handler was passed over. -/
  | passing
  | resolution
  | loading
  /-- There is nowhere to look for a specifier. -/
  | impasse
  | node
  | start
  | finish
  deriving DecidableEq

/-- What an event is about. -/
def Event.topic : Event → Topic
  | .pluginRegistered _ _ _ => .registration
  | .resolverSkipped _ _ _ => .passing
  | .resolverMatched _ _ _ => .resolution
  | .defaultResolverUsed _ _ => .resolution
  | .loaderSkipped _ _ _ => .passing
  | .loaderMatched _ _ => .loading
  | .defaultLoaderUsed _ => .loading
  | .directoryMissing _ => .impasse
  | .buildStarted _ _ _ => .start
  | .externalModule _ => .node
  | .moduleProcessed _ _ => .node
  | .buildFinished _ _ _ => .finish

theorem eventsOf_append (notes notes' : List Note) :
    eventsOf (notes ++ notes') = eventsOf notes ++ eventsOf notes' :=
  List.filterMap_append

/-- What notes tell, apart from the handlers that were passed over. -/
def topicsOf (notes : List Note) : List Topic :=
  ((eventsOf notes).map Event.topic).filter (· ≠ .passing)

@[simp] theorem topicsOf_nil : topicsOf [] = [] := rfl

@[simp] theorem topicsOf_append (notes notes' : List Note) :
    topicsOf (notes ++ notes') = topicsOf notes ++ topicsOf notes' := by
  simp [topicsOf, eventsOf_append]

/-- What notes tell of modules. -/
def nodesTold (notes : List Note) : List Event :=
  (eventsOf notes).filter (·.topic = .node)

@[simp] theorem nodesTold_append (notes notes' : List Note) :
    nodesTold (notes ++ notes') = nodesTold notes ++ nodesTold notes' := by
  simp [nodesTold, eventsOf_append]

theorem nodesTold_eq_nil {notes : List Note} (h : .node ∉ topicsOf notes) :
    nodesTold notes = [] := by
  refine List.filter_eq_nil_iff.mpr fun e he htopic => h ?_
  have hnode : e.topic = .node := of_decide_eq_true htopic
  simp only [topicsOf, List.mem_filter, List.mem_map]
  exact ⟨⟨e, he, hnode⟩, by decide⟩

/-! ## Walks -/

namespace Work

variable {α β : Type}

/-- What work tells. -/
def topics (w : Work α) : List Topic :=
  topicsOf w.notes

@[simp] theorem topics_pure (a : α) : (pure a : Work α).topics = [] := rfl

@[simp] theorem topics_ofExcept (x : Except BuildError α) : (ofExcept x).topics = [] := rfl

/-- Work after work that succeeds tells what both tell. -/
theorem topics_bind {w : Work α} {f : α → Work β} {b : β} (h : (w >>= f).result = .ok b) :
    ∃ a, w.result = .ok a ∧ (f a).result = .ok b ∧ (w >>= f).topics = w.topics ++ (f a).topics := by
  obtain ⟨a, ha, hb⟩ := result_bind_ok h
  exact ⟨a, ha, hb, by simp [topics, bind_ok ha]⟩

end Work

/-- A default resolver tells nothing of its own where it gives a target. -/
def DefaultResolver.Quiet (fallback : DefaultResolver) : Prop :=
  ∀ q t, (fallback q).result = .ok (some t) → (fallback q).topics = []

theorem FileResolver.quiet_resolve (r : FileResolver) : DefaultResolver.Quiet r.resolve := by
  intro q t h
  unfold resolve at h ⊢
  by_cases hexternal : isExternal q.specifier r.external = true
  · simp [hexternal]
  · by_cases habsolute : (⟨q.specifier⟩ : Path).isAbsolute = true
    · simp [hexternal, habsolute]
    · by_cases hrelative : isRelative q.specifier = true
      · cases hd : q.directory with
        | some directory => simp [hexternal, habsolute, hrelative]
        | none => simp [hexternal, habsolute, hrelative, hd, Work.result_bind, Except.bind] at h
      · simp [hexternal, habsolute, hrelative]

section
variable {fallback : DefaultResolver} {q : ResolveRequest} {x : Resolution}

theorem topics_resolveByDefault (hf : fallback.Quiet)
    (h : (resolveByDefault fallback q).result = .ok x) :
    (resolveByDefault fallback q).topics = [.resolution] := by
  obtain ⟨t?, ht, h, htopics⟩ := Work.topics_bind h
  rw [resolveByDefault, htopics]
  cases t? with
  | none => cases h
  | some t =>
    obtain ⟨r, -, -, htold⟩ := Work.topics_bind h
    rw [hf q t ht, htold]
    rfl

/-- A walk through the resolvers that ends in an answer tells of it once. -/
theorem topics_resolveWith (hf : fallback.Quiet) {hs : List (String × ResolverHandler)}
    (h : (resolveWith fallback q hs).result = .ok x) :
    (resolveWith fallback q hs).topics = [.resolution] := by
  induction hs with
  | nil => exact topics_resolveByDefault hf h
  | cons c hs ih =>
    obtain ⟨plugin, handler⟩ := c
    rw [resolveWith] at h ⊢
    by_cases hc : handler.filter.accepts q.specifier q.space none = true
    · rw [if_pos hc] at h ⊢
      obtain ⟨_, -, h, htopics⟩ := Work.topics_bind h
      rw [htopics]
      split at h
      · cases h
      · exact ih h
      · obtain ⟨r, -, -, htold⟩ := Work.topics_bind h
        rw [htold]
        rfl
    · rw [if_neg hc] at h ⊢
      obtain ⟨_, -, h, htopics⟩ := Work.topics_bind h
      rw [htopics]
      exact ih h

end

section
variable {fallback : DefaultLoader} {q : LoadRequest} {x : LoadedModule}

theorem topics_loadByDefault {id : ModuleId} (h : (loadByDefault fallback id).result = .ok x) :
    (loadByDefault fallback id).topics = [.loading] := by
  obtain ⟨c?, -, h, htopics⟩ := Work.topics_bind h
  rw [loadByDefault, htopics]
  cases c? with
  | none => cases h
  | some c => rfl

/-- A walk through the loaders that ends in an answer tells of it once. -/
theorem topics_loadWith {hs : List (String × LoaderHandler)}
    (h : (loadWith fallback q hs).result = .ok x) :
    (loadWith fallback q hs).topics = [.loading] := by
  induction hs with
  | nil => exact topics_loadByDefault h
  | cons c hs ih =>
    obtain ⟨plugin, handler⟩ := c
    rw [loadWith] at h ⊢
    by_cases hc : handler.filter.accepts q.id.path q.id.space (some fileSpace) = true
    · rw [if_pos hc] at h ⊢
      obtain ⟨_, -, h, htopics⟩ := Work.topics_bind h
      rw [htopics]
      split at h
      · cases h
      · exact ih h
      · rfl
    · rw [if_neg hc] at h ⊢
      obtain ⟨_, -, h, htopics⟩ := Work.topics_bind h
      rw [htopics]
      exact ih h

end

/-- Walks that end in an answer tell of it once. -/
structure BuildPlan.Telling (p : BuildPlan) : Prop where
  resolve : ∀ q x, (p.resolve q).result = .ok x → (p.resolve q).topics = [.resolution]
  load : ∀ q x, (p.load q).result = .ok x → (p.load q).topics = [.loading]

theorem BuildOptions.telling_plan (o : BuildOptions) (registry : Registry) (files : FileSystem) :
    (o.plan registry files).Telling where
  resolve := fun _ _ => topics_resolveWith (FileResolver.quiet_resolve _)
  load := fun _ _ => topics_loadWith

/-! ## The notes of a run -/

/-- What is told of a module before it is put in. -/
def Module.event (m : Module) : Event :=
  if m.isExternal then .externalModule m.id else .moduleProcessed m.id m.dependencies.length

/-- What the notes of a run are about. -/
def Topic.OfRun (t : Topic) : Prop :=
  t = .resolution ∨ t = .loading ∨ t = .node

/-- The notes of a run account for its counts and its graph, where `ahead` is told of modules that
are not put in yet. -/
structure RunState.Tells (s : RunState) (ahead : List Event) : Prop where
  resolves_eq : s.resolves = (topicsOf s.notes).count .resolution
  loads_eq : s.loads = (topicsOf s.notes).count .loading
  nodes_eq : nodesTold s.notes = s.graph.nodes.map Module.event ++ ahead
  ofRun : ∀ t ∈ topicsOf s.notes, t.OfRun
  external_bare : ∀ m ∈ s.graph.nodes, m.isExternal = true → m.dependencies = []

namespace RunState.Tells

variable {p : BuildPlan} {s t : RunState} {ahead : List Event} {new : List Note}

theorem empty : Tells {} [] :=
  ⟨rfl, rfl, rfl, fun _ h => (nomatch h), fun _ h => nomatch h⟩

/-- More is noted and counted, and the graph stays. -/
theorem more (h : s.Tells ahead) (hn : t.notes = s.notes ++ new)
    (hr : t.resolves = s.resolves + (topicsOf new).count .resolution)
    (hl : t.loads = s.loads + (topicsOf new).count .loading) (hg : t.graph = s.graph)
    (hof : ∀ x ∈ topicsOf new, x.OfRun) : t.Tells (ahead ++ nodesTold new) where
  resolves_eq := by rw [hr, h.resolves_eq, hn, topicsOf_append, List.count_append]
  loads_eq := by rw [hl, h.loads_eq, hn, topicsOf_append, List.count_append]
  nodes_eq := by rw [hn, nodesTold_append, h.nodes_eq, hg, List.append_assoc]
  ofRun := by
    rw [hn, topicsOf_append]
    exact List.forall_mem_append.mpr ⟨h.ofRun, hof⟩
  external_bare := by
    rw [hg]
    exact h.external_bare

/-- What is neither noted nor counted changes nothing. -/
theorem same (h : s.Tells ahead) (hn : t.notes = s.notes) (hr : t.resolves = s.resolves)
    (hl : t.loads = s.loads) (hg : t.graph = s.graph) : t.Tells ahead := by
  have hmore : t.Tells (ahead ++ nodesTold []) :=
    h.more (by rw [hn, List.append_nil]) hr hl hg fun _ hx => nomatch hx
  rwa [show nodesTold [] = [] from rfl, List.append_nil] at hmore

/-- A walk is told of in one topic, which is not a module. -/
theorem walk {topic : Topic} (h : s.Tells ahead) (htopics : topicsOf new = [topic])
    (hof : topic.OfRun) (hnode : topic ≠ .node) (hn : t.notes = s.notes ++ new)
    (hr : t.resolves = s.resolves + [topic].count .resolution)
    (hl : t.loads = s.loads + [topic].count .loading) (hg : t.graph = s.graph) :
    t.Tells ahead := by
  rw [← htopics] at hr hl
  have hnone : nodesTold new = [] := by
    refine nodesTold_eq_nil fun hmem => hnode ?_
    rw [htopics] at hmem
    exact (List.mem_singleton.mp hmem).symm
  have hmore := h.more hn hr hl hg (by simpa [htopics] using hof)
  rwa [hnone, List.append_nil] at hmore

/-- A request that is answered is told of if it is walked, and counted then. -/
theorem answered (ht : p.Telling) (h : s.Tells ahead) {q : ResolveRequest} {r : Resolution}
    (hv : value (resolve p q) s = .ok r) : (state (resolve p q) s).Tells ahead := by
  rw [value_resolve] at hv
  cases hk : s.answer? q.key with
  | some r' =>
    rw [state_resolve_known hk]
    exact h.same rfl rfl rfl rfl
  | none =>
    rw [hk] at hv
    rw [state_resolve_new hk, state_walk]
    exact h.walk (ht.resolve q r hv) (.inl rfl) (by decide) rfl rfl rfl rfl

theorem imports (ht : p.Telling) {id : ModuleId} {loaded : LoadedModule}
    {rs : List ImportRecord} (h : s.Tells ahead) {cs : List (ImportRecord × Resolution)}
    (hv : value (resolveImports p id loaded rs) s = .ok cs) :
    (state (resolveImports p id loaded rs) s).Tells ahead := by
  induction rs generalizing s cs with
  | nil => exact h
  | cons r rs ih =>
    obtain ⟨c, hc, hv, hs⟩ := value_bind_ok hv
    obtain ⟨cs', hcs, -, hs'⟩ := value_bind_ok hv
    rw [resolveImports, hs, hs', state_pure]
    exact ih (h.answered ht hc) hcs

theorem loaded (ht : p.Telling) (h : s.Tells ahead) {q : LoadRequest} {loaded : LoadedModule}
    (hv : value (load p q) s = .ok loaded) : (state (load p q) s).Tells ahead := by
  rw [value_load] at hv
  rw [state_load]
  exact h.walk (ht.load q loaded hv) (.inr (.inl rfl)) (by decide) rfl rfl rfl rfl

/-- A module is told of, and then put in. -/
theorem put {m : Module} (h : s.Tells []) (he : m.isEntry = false)
    (hm : m.isExternal = true → m.dependencies = [])
    (hv : value (addModule m) (state (perform (Work.tell m.event)) s) = .ok ()) :
    (state (addModule m) (state (perform (Work.tell m.event)) s)).Tells [] := by
  have htopic : m.event.topic = .node := by
    unfold Module.event
    split <;> rfl
  have htopics : topicsOf [.event m.event] = [.node] := by
    simp [topicsOf, eventsOf, htopic]
  have htold : (state (perform (Work.tell m.event)) s).Tells [m.event] := by
    rw [state_perform]
    have hmore := h.more (t := { s with notes := s.notes ++ [.event m.event] }) rfl
      (by rw [htopics]; rfl) (by rw [htopics]; rfl) rfl (by simp [htopics, Topic.OfRun])
    have hnodes : nodesTold [.event m.event] = [m.event] := by simp [nodesTold, eventsOf, htopic]
    rwa [hnodes] at hmore
  obtain ⟨-, hg⟩ := addModule_ok he hv
  rw [state_addModule] at hg ⊢
  refine ⟨htold.resolves_eq, htold.loads_eq, ?_, htold.ofRun, ?_⟩
  · change nodesTold (state (perform (Work.tell m.event)) s).notes = _
    rw [htold.nodes_eq, hg]
    simp [ModuleGraph.push]
  · rw [hg]
    exact List.forall_mem_append.mpr ⟨htold.external_bare, List.forall_mem_singleton.mpr hm⟩

/-- A task that succeeds tells of its walks and of its module. -/
theorem task (ht : p.Telling) (h : s.Tells []) {r : Resolution} {cs : List Resolution}
    (hv : value (process p r) s = .ok cs) : (state (process p r) s).Tells [] := by
  have hbegin : (withBegin s r).Tells [] := h.same rfl rfl rfl rfl
  rw [(process_eq p r s).1] at hv
  rw [(process_eq p r s).2]
  by_cases he : r.external = true
  · rw [if_pos he] at hv ⊢
    obtain ⟨_, _, hv, hs₁⟩ := value_bind_ok hv
    obtain ⟨_, hadd, -, hs₂⟩ := value_bind_ok hv
    rw [processExternal, hs₁, hs₂]
    exact hbegin.put (m := Module.ofExternal r.id r.pluginData) rfl (fun _ => rfl) hadd
  · rw [if_neg he] at hv ⊢
    obtain ⟨loaded, hl, hv, hs₁⟩ := value_bind_ok hv
    obtain ⟨rs, _, hv, hs₂⟩ := value_bind_ok hv
    obtain ⟨cs', hcs, hv, hs₃⟩ := value_bind_ok hv
    obtain ⟨_, _, hv, hs₄⟩ := value_bind_ok hv
    obtain ⟨_, hadd, -, hs₅⟩ := value_bind_ok hv
    rw [processLoaded, hs₁, linkLoaded, hs₂, hs₃, hs₄, hs₅]
    have hscan : (state (perform (Work.ofExcept (importsOf p r.id loaded)))
        (state (load p ⟨r.id, r.pluginData⟩) (withBegin s r))).Tells [] := by
      rw [state_perform]
      exact (hbegin.loaded ht hl).same (List.append_nil _) rfl rfl rfl
    have hevent : (moduleOf r loaded cs').event = .moduleProcessed r.id cs'.length := by
      simp [Module.event, moduleOf]
    rw [← hevent] at hadd ⊢
    exact (hscan.imports ht hcs).put rfl (fun h => absurd h Bool.false_ne_true) hadd

/-- To claim tells nothing. -/
theorem withClaims (h : s.Tells ahead) (rs : List Resolution) :
    (withClaims s rs).Tells ahead :=
  h.same rfl rfl rfl rfl

theorem declareEntries (h : s.Tells []) (ids : List ModuleId) :
    (state (declareEntries ids) s).Tells [] := by
  rw [state_declareEntries]
  refine ⟨h.resolves_eq, h.loads_eq, ?_, h.ofRun, ?_⟩
  · rw [h.nodes_eq, ModuleGraph.map_nodes_setEntryPoints fun _ => rfl]
  · have hmap := ModuleGraph.map_nodes_setEntryPoints
      (f := fun m : Module => (m.isExternal, m.dependencies)) (fun _ => rfl) s.graph ids
    have hall : ∀ x ∈ s.graph.nodes.map (fun m : Module => (m.isExternal, m.dependencies)),
        x.1 = true → x.2 = [] := List.forall_mem_map.mpr h.external_bare
    rw [← hmap] at hall
    exact List.forall_mem_map.mp hall

end RunState.Tells

namespace Driver

variable {p : BuildPlan} {directory : Path} {d d' : Driver}

/-- Every step keeps what the notes tell, unless a task fails. -/
theorem Step.tells (h : Step p directory d d') (ht : p.Telling) (hc : d'.Clean)
    (hd : d.run.Tells []) : d'.run.Tells [] := by
  cases h with
  | entry hu hv =>
    obtain ⟨r, hr, -, hs⟩ := resolveEntry_ok hv
    change (state _ d.run).Tells []
    rw [hs]
    exact (hd.answered ht hr).withClaims _
  | @task r before later hp =>
    obtain ⟨cs, hv⟩ := hc _ (List.mem_append_right _ List.mem_cons_self)
    have hpending : (d.run.withPending (before ++ later)).Tells [] := hd.same rfl rfl rfl rfl
    exact hpending.task ht hv
  | @handBack cs before later hu hdone hv =>
    obtain ⟨new, -, hs, -⟩ := claimAll_spec p cs d.run
    change (state _ d.run).Tells []
    rw [hs]
    exact hd.withClaims new

end Driver

end BundleGraph
