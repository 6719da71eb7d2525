import BundleGraph.Proofs.Run.Schedule

/-!
# What the graph is asked to take

A graph refuses a module whose identity it has, and an entry whose module it has not.  A run
never asks for either.  The identities in the graph are those of tasks that began, and a task
begins once, so that the identity of a pending task is free.  The entries are claimed, and when
nothing is left to do, all that is claimed is in the graph.

## Main definitions

* `BuildError.IsRefusal` — the graph refused an operation.
* `Run.FailsIn` — a step fails only with some errors.
* `RunState.Placed`, `Driver.Rooted` — where the modules and the entries of a run come from.
-/

namespace BundleGraph

open Relation Run

/-- The graph refused an operation.  An identity that is none was never given to it. -/
def GraphError.IsRefusal : GraphError → Prop
  | .identity _ => False
  | .duplicate _ => True
  | .entryMissing _ => True
  | .moduleMissing _ => True
  | .failed _ => True

/-- The graph refused an operation. -/
def BuildError.IsRefusal : BuildError → Prop
  | .graph e => e.IsRefusal
  | _ => False

/-- What resolvers and loaders fail with is no refusal. -/
structure BuildPlan.Unrefusing (p : BuildPlan) : Prop where
  resolve : ∀ q e, (p.resolve q).result = .error e → ¬ e.IsRefusal
  load : ∀ q e, (p.load q).result = .error e → ¬ e.IsRefusal

namespace Run

variable {α β : Type} {P : BuildError → Prop} {p : BuildPlan} {s : RunState}

/-- The step fails only with errors of some kind. -/
def FailsIn (P : BuildError → Prop) (m : Run α) (s : RunState) : Prop :=
  ∀ e, value m s = .error e → P e

theorem FailsIn.of_ok {m : Run α} {a : α} (h : value m s = .ok a) : FailsIn P m s := by
  intro e he
  cases h.symm.trans he

theorem FailsIn.bind {m : Run α} {f : α → Run β} (hm : FailsIn P m s)
    (hf : ∀ a, value m s = .ok a → FailsIn P (f a) (state m s)) : FailsIn P (m >>= f) s := by
  intro e he
  rw [value_bind] at he
  cases hv : value m s with
  | ok a => rw [hv] at he; exact hf a hv e he
  | error x => rw [hv] at he; cases he; exact hm _ hv

theorem perform_failsIn {w : Work α} (h : ∀ e, w.result = .error e → P e) :
    FailsIn P (perform w) s := by
  intro e he
  rw [value_perform] at he
  exact h e he

/-- A request fails as a walk through the resolvers does. -/
theorem resolve_failsIn (h : ∀ q e, (p.resolve q).result = .error e → P e) (q : ResolveRequest) :
    FailsIn P (resolve p q) s := by
  intro e he
  rw [value_resolve] at he
  cases hk : s.answer? q.key with
  | some r => rw [hk] at he; cases he
  | none => rw [hk] at he; exact h q e he

theorem resolveImports_failsIn (h : ∀ q e, (p.resolve q).result = .error e → P e) (id : ModuleId)
    (loaded : LoadedModule) (rs : List ImportRecord) :
    FailsIn P (resolveImports p id loaded rs) s := by
  induction rs generalizing s with
  | nil => exact .of_ok rfl
  | cons r rs ih =>
    exact (resolve_failsIn h _).bind fun c _ => ih.bind fun cs _ => .of_ok rfl

theorem claim_failsIn (h : P (.tooManyModules p.maxModules)) (r : Resolution) :
    FailsIn P (claim p r) s := by
  by_cases hr : r.id ∈ s.claimed
  · exact .of_ok (claim_claimed p hr).1
  · by_cases hf : p.maxModules ≤ s.claimed.length
    · intro e he
      rw [(claim_full hr hf).1] at he
      cases he
      exact h
    · exact .of_ok (claim_new hr (by omega)).1

theorem claimAll_failsIn (h : P (.tooManyModules p.maxModules)) (rs : List Resolution) :
    FailsIn P (claimAll p rs) s := by
  induction rs generalizing s with
  | nil => exact .of_ok rfl
  | cons r rs ih => exact (claim_failsIn h r).bind fun _ _ => ih

theorem resolveEntry_failsIn (hask : ∀ q e, (p.resolve q).result = .error e → P e)
    (hclaim : P (.tooManyModules p.maxModules)) (directory : Path) (e : String) :
    FailsIn P (resolveEntry p directory e) s :=
  (resolve_failsIn hask _).bind fun r _ => (claim_failsIn hclaim r).bind fun _ _ => .of_ok rfl

/-- A module is put in last, and it is taken when its identity is free. -/
theorem addModule_failsIn {m : Module} (he : m.isEntry = false)
    (hn : m.id ∉ s.graph.nodes.map Module.id) (a : α) :
    FailsIn P (do addModule m; return a) s :=
  (FailsIn.of_ok (addModule_new he hn)).bind fun _ _ => .of_ok rfl

/-- When its identity is free, a task fails as the walks and the scan do. -/
theorem process_failsIn {r : Resolution} (hn : r.id ∉ s.graph.nodes.map Module.id)
    (hask : ∀ q e, (p.resolve q).result = .error e → P e)
    (hload : ∀ q e, (p.load q).result = .error e → P e)
    (hscan : ∀ loaded e, importsOf p r.id loaded = .error e → P e) :
    FailsIn P (process p r) s := by
  intro e he
  rw [(process_eq p r s).1] at he
  revert e
  change FailsIn P _ (withBegin s r)
  by_cases hx : r.external = true
  · rw [if_pos hx]
    refine (perform_failsIn fun _ h => nomatch h).bind fun _ _ => addModule_failsIn rfl ?_ _
    rw [graph_perform]
    exact hn
  · rw [if_neg hx]
    refine FailsIn.bind (fun e h => hload _ e ((value_load p _ _).symm.trans h)) fun loaded _ => ?_
    refine (perform_failsIn (hscan loaded)).bind fun rs _ => ?_
    refine (resolveImports_failsIn hask _ _ rs).bind fun cs _ => ?_
    refine (perform_failsIn fun _ h => nomatch h).bind fun _ _ => addModule_failsIn rfl ?_ _
    have hg := resolveImports_within (resolve_sameGraph p) r.id loaded rs
    rw [graph_perform, hg, graph_perform, graph_load]
    exact hn

end Run

namespace RunState

/-- The identities in the graph are those of tasks that began. -/
def Placed (s : RunState) : Prop :=
  s.graph.nodes.map Module.id ⊆ s.begun.map Resolution.id

theorem Placed.of_eq {s t : RunState} (h : s.Placed) (hg : t.graph = s.graph)
    (hb : t.begun = s.begun) : t.Placed := by
  rw [Placed, hg, hb]
  exact h

/-- The identity of a pending task is free. -/
theorem Placed.free {s : RunState} (h : s.Placed) (ht : s.Tracks) {r : Resolution}
    (hr : r ∈ s.pending) : r.id ∉ s.graph.nodes.map Module.id := by
  have hn := ht.ids_nodup
  rw [List.map_append] at hn
  intro hi
  exact List.disjoint_of_nodup_append hn (h hi) (List.mem_map_of_mem hr)

end RunState

namespace Run

open RunState

theorem resolve_placed (p : BuildPlan) (q : ResolveRequest) :
    Within (Carries Placed) (resolve p q) :=
  fun s hs => hs.of_eq (resolve_sameGraph p q s) (resolve_links p q s).begun

/-- A task puts in its own identity, or leaves the graph alone. -/
theorem process_placed (p : BuildPlan) (r : Resolution) :
    Within (Carries Placed) (process p r) := by
  intro s hs
  rw [Placed, (process_begins p r s).begun, List.map_append]
  cases hv : value (process p r) s with
  | error e =>
    rw [process_failsClean p r s e hv]
    exact fun i hi => List.mem_append_left _ (hs hi)
  | ok cs =>
    obtain ⟨log, m, hmakes, -, -, hg, -⟩ := process_ok hv
    rw [hg, ModuleGraph.push, List.map_append]
    intro i hi
    refine List.mem_append.mpr ((List.mem_append.mp hi).imp (fun hi => hs hi) fun hi => ?_)
    rw [List.mem_singleton.mp hi, hmakes.id_eq]
    exact List.mem_singleton_self _

end Run

namespace Driver

variable {p : BuildPlan} {directory : Path} {d d' : Driver}

/-- The entries that were read are claimed. -/
def Rooted (d : Driver) : Prop :=
  d.roots ⊆ d.run.claimed

/-- No task that waits to be handed back was refused. -/
def Unrefused (d : Driver) : Prop :=
  ∀ e, .error e ∈ d.done → ¬ e.IsRefusal

theorem Step.placed (h : Step p directory d d') (hd : d.run.Placed) : d'.run.Placed := by
  refine h.keeps (resolve_placed p) ?_ (fun s r before later _ hs => process_placed p r _ hs) hd
  exact claim_within_of_withClaims fun _ _ hs => hs

theorem Step.rooted (h : Step p directory d d') (hd : d.Rooted) : d'.Rooted := by
  cases h with
  | @entry e es id hu hv =>
    obtain ⟨r, -, rfl, hs⟩ := resolveEntry_ok hv
    have hl := resolve_links p (ResolveRequest.ofEntry e directory) d.run
    intro i hi
    rw [hs]
    change i ∈ ((unclaimed d.run.claimed [r]).map Resolution.id).reverse ++ _
    rw [hl.claimed, List.mem_append, List.mem_reverse]
    rcases List.mem_append.mp hi with hi | hi
    · exact .inr (hd hi)
    · rw [List.mem_singleton.mp hi]
      exact (exists_unclaimed List.mem_cons_self).symm
  | @task r before later hp =>
    intro i hi
    rw [(process_begins p r (d.run.withPending (before ++ later))).claimed]
    exact hd hi
  | @handBack cs before later hu hdone hv =>
    obtain ⟨new, -, hs, -⟩ := claimAll_spec p cs d.run
    intro i hi
    rw [hs]
    exact List.mem_append_right _ (hd hi)

/-- No task is refused, since its identity is free. -/
theorem Step.unrefused (hp : p.Unrefusing) (ht : d.run.Tracks) (hpl : d.run.Placed)
    (h : Step p directory d d') (hd : d.Unrefused) : d'.Unrefused := by
  cases h with
  | entry hu hv => exact hd
  | @task r before later hpending =>
    intro e he
    rcases List.mem_append.mp he with he | he
    · exact hd e he
    · have hr : r ∈ d.run.pending := by
        rw [hpending]
        exact List.mem_append_right _ List.mem_cons_self
      have hfails : FailsIn (¬ ·.IsRefusal) (process p r)
          (d.run.withPending (before ++ later)) := by
        refine process_failsIn (hpl.free ht hr) hp.resolve hp.load ?_
        intro loaded x hx
        rw [importsOf] at hx
        split at hx
        · split at hx <;> cases hx
          exact id
        · cases hx
      exact hfails e (List.mem_singleton.mp he).symm
  | handBack hu hdone hv =>
    intro e he
    apply hd e
    rw [hdone]
    exact List.mem_append.mpr ((List.mem_append.mp he).imp_right (List.mem_cons_of_mem _))

/-- When nothing is left to do and the graph has all that began, it has the entries. -/
theorem Rooted.subset_graph (h : d.Rooted) (ht : d.run.Tracks) (hp : d.run.pending = [])
    (hids : d.run.graph.nodes.map Module.id = d.run.begun.map Resolution.id) :
    d.roots ⊆ d.run.graph.nodes.map Module.id := by
  intro i hi
  rw [hids]
  have hc := ht.mem_claimed_iff.mp (h hi)
  rw [hp, List.append_nil] at hc
  exact hc

/-- A build does not end with a refusal. -/
theorem Ends.unrefused (hp : p.Unrefusing) (hd : d.Unrefused)
    (hroots : d.run.pending = [] → d.done = [] → d.roots ⊆ d.run.graph.nodes.map Module.id)
    {e : BuildError} {s : RunState} (h : d.Ends p directory (.error e) s) : ¬ e.IsRefusal := by
  have hlimit : ¬ (BuildError.tooManyModules p.maxModules).IsRefusal := id
  generalize hx : (Except.error e : Except BuildError Unit) = x at h
  cases h with
  | entry hu hv =>
    cases hx
    exact resolveEntry_failsIn hp.resolve hlimit directory _ e hv
  | task hu hdone => cases hx; exact hd e hdone
  | claims hu hdone hv =>
    cases hx
    exact claimAll_failsIn (P := (¬ ·.IsRefusal)) hlimit _ e hv
  | finish hu hpending hdone =>
    rw [value_declareEntries, ModuleGraph.setEntryPoints_of_subset (hroots hpending hdone)] at hx
    cases hx

end Driver

end BundleGraph
