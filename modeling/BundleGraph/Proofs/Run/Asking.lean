import BundleGraph.Proofs.Run.Schedule

/-!
# Runs for some way to ask

The run of a plan is written once more for any way to ask about a request: `Run.build` asks
through the memory of the run.  Two such runs are compared step by step.  They may differ in how
they ask and in what they note, and for the rest they go the same way, so that one lemma for the
requests is enough to compare whole runs.  Builds whose tasks run in any order are compared alike:
the one takes its tasks in the order of the other.

## Main definitions

* `Run.buildBy` — the run for some way to ask; `Run.buildBy_resolve` has `Run.build` as a case.
* `RunState.Alongside` — a relation that keeps two runs at the same place.
* `Run.Follows` — two steps come to the same from related states.
* `BuildPlan.LoadsLike` — two plans that differ only in how requests are resolved.
* `Run.buildBy_follows` — whole runs follow each other when their requests do.
* `BuildPlan.Runs.follow` — so do builds in any order.
-/

namespace BundleGraph

namespace Run

/-! ## The run for some way to ask -/

section
variable (ask : ResolveRequest → Run Resolution) (p : BuildPlan)

/-- Resolves the imports of a module in order. -/
def resolveImportsBy (id : ModuleId) (loaded : LoadedModule) :
    List ImportRecord → Run (List (ImportRecord × Resolution))
  | [] => return []
  | r :: rs => do
    let child ← ask (requestOf id loaded r)
    return (r, child) :: (← resolveImportsBy id loaded rs)

/-- Resolves the imports of a loaded module and puts the module into the graph. -/
def linkLoadedBy (r : Resolution) (loaded : LoadedModule) : Run (List Resolution) := do
  let records ← perform (Work.ofExcept (importsOf p r.id loaded))
  let children ← resolveImportsBy ask r.id loaded records
  perform (Work.tell (.moduleProcessed r.id children.length))
  addModule (moduleOf r loaded children)
  return children.map (·.2)

/-- Processes a claimed resolution; the answer is what its imports lead to. -/
def processBy (r : Resolution) : Run (List Resolution) := do
  record (.began r)
  if r.external then processExternal r
  else do linkLoadedBy ask p r (← load p ⟨r.id, r.pluginData⟩)

/-- Processes a claimed resolution and claims what its imports lead to. -/
def workBy (r : Resolution) : Run Unit := do
  claimAll p (← processBy ask p r)

/-- Processes what is claimed until nothing is left, at most `n` times. -/
def drainBy : ℕ → Run Unit
  | 0 => return
  | n + 1 => do
    let s ← get
    match s.pending with
    | [] => return
    | r :: rest =>
      set { s with pending := rest }
      workBy ask p r
      drainBy n

/-- Resolves entries in order, each claimed right after. -/
def resolveEntriesBy (directory : Path) : List String → Run (List ModuleId)
  | [] => return []
  | e :: es => do
    let r ← ask (ResolveRequest.ofEntry e directory)
    claim p r
    return r.id :: (← resolveEntriesBy directory es)

/-- The whole run. -/
def buildBy (entries : List String) (directory : Path) : Run Unit := do
  let ids ← resolveEntriesBy ask p directory entries
  drainBy ask p p.maxModules
  declareEntries ids

theorem drainBy_nil (n : ℕ) {s : RunState} (h : s.pending = []) :
    value (drainBy ask p n) s = .ok () ∧ state (drainBy ask p n) s = s := by
  cases n with
  | zero => exact ⟨rfl, rfl⟩
  | succ n =>
    simp only [drainBy, value_bind, state_bind, value_get, state_get, h, value_pure, state_pure,
      and_self]

theorem drainBy_cons (n : ℕ) {s : RunState} {r : Resolution} {rest : List Resolution}
    (h : s.pending = r :: rest) :
    value (drainBy ask p (n + 1)) s =
        value (do workBy ask p r; drainBy ask p n) (s.withPending rest) ∧
      state (drainBy ask p (n + 1)) s =
        state (do workBy ask p r; drainBy ask p n) (s.withPending rest) := by
  rw [drainBy, value_bind, state_bind, value_get, state_get]
  simp only [h]
  rw [value_bind, state_bind, value_set, state_set]
  exact ⟨rfl, rfl⟩

end

/-! ## Asking through the memory -/

section
variable (p : BuildPlan)

theorem resolveImportsBy_resolve (id : ModuleId) (loaded : LoadedModule)
    (rs : List ImportRecord) :
    resolveImportsBy (resolve p) id loaded rs = resolveImports p id loaded rs := by
  induction rs with
  | nil => rfl
  | cons r rs ih => rw [resolveImportsBy, resolveImports, ih]

theorem processBy_resolve (r : Resolution) : processBy (resolve p) p r = process p r := by
  simp only [processBy, process, processLoaded, linkLoadedBy, linkLoaded,
    resolveImportsBy_resolve]

theorem drainBy_resolve (n : ℕ) : drainBy (resolve p) p n = drain p n := by
  induction n with
  | zero => rfl
  | succ n ih =>
    have hwork : workBy (resolve p) p = work p := by
      funext r
      rw [workBy, work, processBy_resolve]
    rw [drainBy, hwork, ih]
    rfl

theorem resolveEntriesBy_resolve (directory : Path) (es : List String) :
    resolveEntriesBy (resolve p) p directory es = resolveEntries p directory es := by
  induction es with
  | nil => rfl
  | cons e es ih =>
    rw [resolveEntriesBy, resolveEntries, resolveEntry, ih]
    simp only [bind_assoc, pure_bind]

/-- `Run.build` is the run that asks through the memory. -/
theorem buildBy_resolve (entries : List String) (directory : Path) :
    buildBy (resolve p) p entries directory = build p entries directory := by
  simp only [buildBy, build, resolveEntriesBy_resolve, drainBy_resolve]

end

end Run

/-! ## Two runs at the same place -/

/-- What a state says about requests: the answers so far, and the counts. -/
def RunState.asked (s : RunState) : List (ResolveKey × Resolution) × ℕ × ℕ :=
  (s.answers, s.requests, s.resolves)

/-- Two runs stand at the same place, whatever they asked. -/
structure RunState.SamePlace (s t : RunState) : Prop where
  claimed_eq : t.claimed = s.claimed
  pending_eq : t.pending = s.pending
  graph_eq : t.graph = s.graph
  loads_eq : t.loads = s.loads

/-- The relation keeps two runs at the same place, and beyond this looks only at what they
asked. -/
structure RunState.Alongside (R : RunState → RunState → Prop) : Prop where
  place : ∀ {s t}, R s t → s.SamePlace t
  kept : ∀ {s t s' t'}, R s t → s'.asked = s.asked → t'.asked = t.asked → s'.SamePlace t' →
    R s' t'

/-- Two plans load alike and keep to one limit; how they resolve is left open. -/
structure BuildPlan.LoadsLike (p p' : BuildPlan) : Prop where
  load_result : ∀ q, (p'.load q).result = (p.load q).result
  followImports_eq : p'.followImports = p.followImports
  maxModules_eq : p'.maxModules = p.maxModules

theorem BuildPlan.LoadsLike.refl (p : BuildPlan) : p.LoadsLike p :=
  ⟨fun _ => rfl, rfl, rfl⟩

namespace Run

variable {α β : Type} {R : RunState → RunState → Prop} {p p' : BuildPlan}

/-- From related states two steps come to the same and to related states. -/
def Follows (R : RunState → RunState → Prop) (m m' : Run α) : Prop :=
  ∀ s t, R s t → value m' t = value m s ∧ R (state m s) (state m' t)

theorem Follows.pure (a : α) : Follows R (Pure.pure a : Run α) (Pure.pure a) :=
  fun _ _ h => ⟨rfl, h⟩

theorem Follows.bind {m m' : Run α} {f f' : α → Run β} (hm : Follows R m m')
    (hf : ∀ a, Follows R (f a) (f' a)) : Follows R (m >>= f) (m' >>= f') := by
  intro s t h
  obtain ⟨hv, hs⟩ := hm s t h
  rw [value_bind, value_bind, state_bind, state_bind, hv]
  cases value m s with
  | ok a => exact hf a _ _ hs
  | error e => exact ⟨rfl, hs⟩

section
variable (hR : RunState.Alongside R)
include hR

/-! ### Steps that do not ask -/

/-- Notes and acts do not say where a run stands. -/
theorem noted_follows {s t : RunState} (h : R s t) (notes notes' : List Note)
    (acts acts' : List Act) :
    R { s with notes, acts } { t with notes := notes', acts := acts' } := by
  have hst := hR.place h
  exact hR.kept h rfl rfl ⟨hst.claimed_eq, hst.pending_eq, hst.graph_eq, hst.loads_eq⟩

theorem record_follows (a : Act) : Follows R (record a) (record a) :=
  fun s t h => ⟨rfl, noted_follows hR h s.notes t.notes _ _⟩

theorem perform_follows {w w' : Work α} (hw : w'.result = w.result) :
    Follows R (perform w) (perform w') := by
  intro s t h
  rw [value_perform, value_perform, state_perform, state_perform]
  exact ⟨hw, noted_follows hR h _ _ s.acts t.acts⟩

theorem load_follows (hp : p.LoadsLike p') (q : LoadRequest) :
    Follows R (load p q) (load p' q) := by
  intro s t h
  have hst := hR.place h
  have hloads : t.loads + 1 = s.loads + 1 := congrArg (· + 1) hst.loads_eq
  rw [value_load, value_load, state_load, state_load]
  exact ⟨hp.load_result q,
    hR.kept h rfl rfl ⟨hst.claimed_eq, hst.pending_eq, hst.graph_eq, hloads⟩⟩

theorem withGraph_follows {s t : RunState} (h : R s t) (g : ModuleGraph) :
    R { s with graph := g } { t with graph := g } := by
  have hst := hR.place h
  exact hR.kept h rfl rfl ⟨hst.claimed_eq, hst.pending_eq, rfl, hst.loads_eq⟩

theorem withPending_follows {s t : RunState} (h : R s t) (rs : List Resolution) :
    R (s.withPending rs) (t.withPending rs) := by
  have hst := hR.place h
  exact hR.kept h rfl rfl ⟨hst.claimed_eq, rfl, hst.graph_eq, hst.loads_eq⟩

theorem withClaims_follows {s t : RunState} (h : R s t) (rs : List Resolution) :
    R (withClaims s rs) (withClaims t rs) := by
  have hst := hR.place h
  have hclaimed := congrArg ((rs.map Resolution.id).reverse ++ ·) hst.claimed_eq
  have hpending := congrArg (· ++ rs) hst.pending_eq
  exact hR.kept h rfl rfl ⟨hclaimed, hpending, hst.graph_eq, hst.loads_eq⟩

theorem addModule_follows (m : Module) : Follows R (addModule m) (addModule m) := by
  intro s t h
  rw [value_addModule, value_addModule, state_addModule, state_addModule, (hR.place h).graph_eq]
  exact ⟨rfl, withGraph_follows hR h _⟩

theorem declareEntries_follows (ids : List ModuleId) :
    Follows R (declareEntries ids) (declareEntries ids) := by
  intro s t h
  rw [value_declareEntries, value_declareEntries, state_declareEntries, state_declareEntries,
    (hR.place h).graph_eq]
  exact ⟨rfl, withGraph_follows hR h _⟩

theorem claim_follows (hp : p.LoadsLike p') (r : Resolution) :
    Follows R (claim p r) (claim p' r) := by
  intro s t h
  have hc := (hR.place h).claimed_eq
  have hm := hp.maxModules_eq
  by_cases hr : r.id ∈ s.claimed
  · obtain ⟨hv, hs⟩ := claim_claimed p hr
    obtain ⟨hv', hs'⟩ := claim_claimed p' (hc ▸ hr : r.id ∈ t.claimed)
    rw [hv, hs, hv', hs']
    exact ⟨rfl, h⟩
  · have hr' : r.id ∉ t.claimed := hc ▸ hr
    by_cases hf : p.maxModules ≤ s.claimed.length
    · have hf' : p'.maxModules ≤ t.claimed.length := by rwa [hc, hm]
      obtain ⟨hv, hs⟩ := claim_full hr hf
      obtain ⟨hv', hs'⟩ := claim_full hr' hf'
      rw [hv, hs, hv', hs', hm]
      exact ⟨rfl, h⟩
    · have hlt : s.claimed.length < p.maxModules := Nat.lt_of_not_le hf
      have hlt' : t.claimed.length < p'.maxModules := by rwa [hc, hm]
      obtain ⟨hv, hs⟩ := claim_new hr hlt
      obtain ⟨hv', hs'⟩ := claim_new hr' hlt'
      rw [hv, hs, hv', hs']
      exact ⟨rfl, withClaims_follows hR h [r]⟩

theorem claimAll_follows (hp : p.LoadsLike p') (rs : List Resolution) :
    Follows R (claimAll p rs) (claimAll p' rs) := by
  induction rs with
  | nil => exact .pure ()
  | cons r rs ih => exact (claim_follows hR hp r).bind fun _ => ih

/-! ### Steps that ask -/

variable {ask ask' : ResolveRequest → Run Resolution} (hp : p.LoadsLike p')
  (hask : ∀ q, Follows R (ask q) (ask' q))
include hask

omit hR in
theorem resolveImportsBy_follows (id : ModuleId) (loaded : LoadedModule)
    (rs : List ImportRecord) :
    Follows R (resolveImportsBy ask id loaded rs) (resolveImportsBy ask' id loaded rs) := by
  induction rs with
  | nil => exact .pure []
  | cons r rs ih => exact (hask _).bind fun c => ih.bind fun cs => .pure _

include hp

theorem linkLoadedBy_follows (r : Resolution) (loaded : LoadedModule) :
    Follows R (linkLoadedBy ask p r loaded) (linkLoadedBy ask' p' r loaded) := by
  have himports : importsOf p' r.id loaded = importsOf p r.id loaded := by
    rw [importsOf, importsOf, hp.followImports_eq]
  rw [linkLoadedBy, linkLoadedBy, himports]
  refine (perform_follows hR rfl).bind fun records => ?_
  refine (resolveImportsBy_follows hask r.id loaded records).bind fun cs => ?_
  exact (perform_follows hR rfl).bind fun _ => (addModule_follows hR _).bind fun _ => .pure _

theorem processBy_follows (r : Resolution) :
    Follows R (processBy ask p r) (processBy ask' p' r) := by
  refine (record_follows hR _).bind fun _ => ?_
  by_cases he : r.external = true
  · rw [if_pos he, if_pos he]
    exact (perform_follows hR rfl).bind fun _ => (addModule_follows hR _).bind fun _ => .pure _
  · rw [if_neg he, if_neg he]
    exact (load_follows hR hp _).bind fun loaded => linkLoadedBy_follows hR hp hask r loaded

theorem workBy_follows (r : Resolution) : Follows R (workBy ask p r) (workBy ask' p' r) :=
  (processBy_follows hR hp hask r).bind fun cs => claimAll_follows hR hp cs

theorem drainBy_follows (n : ℕ) : Follows R (drainBy ask p n) (drainBy ask' p' n) := by
  induction n with
  | zero => exact .pure ()
  | succ n ih =>
    intro s t h
    cases hw : s.pending with
    | nil =>
      obtain ⟨hv, hs⟩ := drainBy_nil ask p (n + 1) hw
      obtain ⟨hv', hs'⟩ := drainBy_nil ask' p' (n + 1) ((hR.place h).pending_eq.trans hw)
      rw [hv, hs, hv', hs']
      exact ⟨rfl, h⟩
    | cons r rest =>
      obtain ⟨hv, hs⟩ := drainBy_cons ask p n hw
      obtain ⟨hv', hs'⟩ := drainBy_cons ask' p' n ((hR.place h).pending_eq.trans hw)
      rw [hv, hs, hv', hs']
      exact (workBy_follows hR hp hask r).bind (fun _ => ih) _ _ (withPending_follows hR h rest)

theorem resolveEntriesBy_follows (directory : Path) (es : List String) :
    Follows R (resolveEntriesBy ask p directory es) (resolveEntriesBy ask' p' directory es) := by
  induction es with
  | nil => exact .pure []
  | cons e es ih =>
    exact (hask _).bind fun r => (claim_follows hR hp r).bind fun _ =>
      ih.bind fun ids => .pure _

/-- Whole runs follow each other when their requests do. -/
theorem buildBy_follows (entries : List String) (directory : Path) :
    Follows R (buildBy ask p entries directory) (buildBy ask' p' entries directory) := by
  refine (resolveEntriesBy_follows hR hp hask directory entries).bind fun ids => ?_
  rw [hp.maxModules_eq]
  exact (drainBy_follows hR hp hask _).bind fun _ => declareEntries_follows hR ids

end

end Run

/-! ## Builds in any order -/

/-- Two builds stand at the same place, and their runs are related. -/
structure Driver.Alongside (R : RunState → RunState → Prop) (d e : Driver) : Prop where
  run : R d.run e.run
  unread_eq : e.unread = d.unread
  roots_eq : e.roots = d.roots
  done_eq : e.done = d.done

section
variable {R : RunState → RunState → Prop} {p p' : BuildPlan} (hR : RunState.Alongside R)
  (hp : p.LoadsLike p') (hask : ∀ q, Run.Follows R (Run.resolve p q) (Run.resolve p' q))
include hR hp hask

namespace Run

theorem resolveEntry_follows (directory : Path) (e : String) :
    Follows R (resolveEntry p directory e) (resolveEntry p' directory e) :=
  (hask _).bind fun r => (claim_follows hR hp r).bind fun _ => .pure _

theorem process_follows (r : Resolution) : Follows R (process p r) (process p' r) := by
  rw [← processBy_resolve, ← processBy_resolve]
  exact processBy_follows hR hp hask r

end Run

namespace Driver

variable {directory : Path} {d d' e : Driver}

theorem Step.follow (hs : Step p directory d d') (h : d.Alongside R e) :
    ∃ e', Step p' directory e e' ∧ d'.Alongside R e' := by
  cases hs with
  | @entry x xs id hu hv =>
    obtain ⟨hvalue, hstate⟩ := Run.resolveEntry_follows hR hp hask directory x _ _ h.run
    refine ⟨_, .entry (h.unread_eq.trans hu) (hvalue.trans hv), hstate, rfl, ?_, h.done_eq⟩
    exact congrArg (· ++ [id]) h.roots_eq
  | @task r before later hpending =>
    have hrun := Run.withPending_follows hR h.run (before ++ later)
    obtain ⟨hvalue, hstate⟩ := Run.process_follows hR hp hask r _ _ hrun
    refine ⟨_, .task ((hR.place h.run).pending_eq.trans hpending), hstate, h.unread_eq, h.roots_eq,
      ?_⟩
    exact congrArg₂ (fun ds d => ds ++ [d]) h.done_eq hvalue
  | @handBack cs before later hu hd hv =>
    obtain ⟨hvalue, hstate⟩ := Run.claimAll_follows hR hp cs _ _ h.run
    exact ⟨_, .handBack (h.unread_eq.trans hu) (h.done_eq.trans hd) (hvalue.trans hv), hstate,
      h.unread_eq, h.roots_eq, rfl⟩

theorem Ends.follow {x : Except BuildError Unit} {s : RunState} (hs : d.Ends p directory x s)
    (h : d.Alongside R e) : ∃ t, e.Ends p' directory x t ∧ R s t := by
  cases hs with
  | @entry y ys x hu hv =>
    obtain ⟨hvalue, hstate⟩ := Run.resolveEntry_follows hR hp hask directory y _ _ h.run
    exact ⟨_, .entry (h.unread_eq.trans hu) (hvalue.trans hv), hstate⟩
  | task hu hd =>
    rw [← h.done_eq] at hd
    exact ⟨_, .task (h.unread_eq.trans hu) hd, h.run⟩
  | @claims cs x hu hd hv =>
    rw [← h.done_eq] at hd
    obtain ⟨hvalue, hstate⟩ := Run.claimAll_follows hR hp cs _ _ h.run
    exact ⟨_, .claims (h.unread_eq.trans hu) hd (hvalue.trans hv), hstate⟩
  | finish hu hpending hd =>
    obtain ⟨hvalue, hstate⟩ := Run.declareEntries_follows hR d.roots _ _ h.run
    rw [← hvalue, ← h.roots_eq]
    rw [← h.roots_eq] at hstate
    exact ⟨_, .finish (h.unread_eq.trans hu) ((hR.place h.run).pending_eq.trans hpending)
      (h.done_eq.trans hd), hstate⟩

theorem steps_follow {entries : List String} (hempty : R {} {})
    (hs : Relation.ReflTransGen (Step p directory) (start entries) d) :
    ∃ e, Relation.ReflTransGen (Step p' directory) (start entries) e ∧ d.Alongside R e := by
  induction hs with
  | refl => exact ⟨_, .refl, hempty, rfl, rfl, rfl⟩
  | tail _ hstep ih =>
    obtain ⟨e, hsteps, h⟩ := ih
    obtain ⟨e', hstep', h'⟩ := hstep.follow hR hp hask h
    exact ⟨e', hsteps.tail hstep', h'⟩

end Driver

/-- What one build comes to in some order, the other comes to in that order. -/
theorem BuildPlan.Runs.follow {directory : Path} {entries : List String}
    {x : Except BuildError Unit} {s : RunState} (hempty : R {} {})
    (h : p.Runs directory entries x s) : ∃ t, p'.Runs directory entries x t ∧ R s t := by
  obtain ⟨d, hsteps, hends⟩ := h
  obtain ⟨e, hsteps', halong⟩ := Driver.steps_follow hR hp hask hempty hsteps
  obtain ⟨t, hends', ht⟩ := hends.follow hR hp hask halong
  exact ⟨t, ⟨e, hsteps', hends'⟩, ht⟩

end

end BundleGraph
