import BundleGraph.Proofs.Run.Schedule

/-!
# The account of a build

As long as no task has failed, a build can be accounted for by what its entries were resolved
to and by the tasks that are done.  They tell the graph and the requests, and every answer was
come to from the entries.  When such a build ends it has succeeded, and all that was come to
is in the graph.

## Main definitions

* `BuildPlan.Made` — a task that is done, with its requests and its module.
* `RunState.Accounts`, `Driver.Account` — the account of a build that goes on.
* `BuildPlan.Complete` — the account of a build that succeeded.
* `BuildPlan.Runs.complete` — every build that succeeded has one.
* `Driver.Unfailing` — a build that cannot fail; `Driver.Unfailing.ok` says what comes of it.
-/

namespace BundleGraph

open Relation Run

/-- A task that is done. -/
structure BuildPlan.Made (p : BuildPlan) where
  resolution : Resolution
  /-- The requests of the task and their answers. -/
  log : List (ResolveRequest × Resolution)
  node : Module
  makes : p.Makes resolution log node

/-- Tasks make the modules that their resolutions name. -/
theorem BuildPlan.ids_made {p : BuildPlan} (made : List p.Made) :
    made.map (·.node.id) = (made.map (·.resolution)).map Resolution.id := by
  rw [List.map_map]
  exact List.map_congr_left fun t _ => t.makes.id_eq

/-- Entries that were resolved, as answered requests. -/
def entryLog (directory : Path) (read : List (String × Resolution)) :
    List (ResolveRequest × Resolution) :=
  read.map fun a => (ResolveRequest.ofEntry a.1 directory, a.2)

/-- The resolution was come to from the entries along the requests of tasks. -/
inductive Led {p : BuildPlan} (read : List (String × Resolution)) (made : List p.Made) :
    Resolution → Prop where
  | entry {a : String × Resolution} (h : a ∈ read) : Led read made a.2
  | child {t : p.Made} {a : ResolveRequest × Resolution} (ht : t ∈ made)
      (hl : Led read made t.resolution) (ha : a ∈ t.log) : Led read made a.2

theorem Led.mono {p : BuildPlan} {read read' : List (String × Resolution)}
    {made made' : List p.Made} (hr : read ⊆ read') (hm : made ⊆ made') {r : Resolution}
    (h : Led read made r) : Led read' made' r := by
  induction h with
  | entry h => exact .entry (hr h)
  | child ht _ ha ih => exact .child (hm ht) ih ha

/-! ## The account of a state -/

namespace RunState

/-- What was read and made tells what a state holds, where `waiting` is still to be claimed. -/
structure Accounts {p : BuildPlan} (directory : Path) (s : RunState)
    (read : List (String × Resolution)) (made : List p.Made) (waiting : List Resolution) :
    Prop where
  begun_eq : s.begun = made.map (·.resolution)
  graph_eq : s.graph = { nodes := made.map (·.node) }
  answered_perm : s.answered.Perm (entryLog directory read ++ made.flatMap (·.log))
  requests_eq : s.requests = s.answered.length
  /-- What is claimed or waits to be was the answer to a request. -/
  given : ∀ r ∈ s.begun ++ s.pending ++ waiting, r ∈ s.answered.map Prod.snd
  /-- What was the answer to a request is claimed or waits to be. -/
  covered : ∀ r ∈ s.answered.map Prod.snd, r.id ∈ s.claimed ∨ r.id ∈ waiting.map Resolution.id
  led : ∀ r ∈ s.answered.map Prod.snd, Led read made r

namespace Accounts

variable {p : BuildPlan} {directory : Path} {s : RunState} {waiting : List Resolution}
variable {read : List (String × Resolution)} {made : List p.Made}

theorem empty : Accounts (p := p) directory {} [] [] [] where
  begun_eq := rfl
  graph_eq := rfl
  answered_perm := .refl []
  requests_eq := rfl
  given := fun _ h => nomatch h
  covered := fun _ h => nomatch h
  led := fun _ h => nomatch h

/-- The order of what waits does not matter. -/
theorem perm (h : s.Accounts directory read made waiting) {ws : List Resolution}
    (hw : waiting.Perm ws) : s.Accounts directory read made ws where
  __ := h
  given := fun r hr => h.given r ((hw.append_left _).mem_iff.mpr hr)
  covered := fun r hr => (h.covered r hr).imp_right (hw.map _).mem_iff.mp

/-- What waits is claimed. -/
theorem withClaims {cs : List Resolution} (h : s.Accounts directory read made (cs ++ waiting)) :
    (withClaims s (unclaimed s.claimed cs)).Accounts directory read made waiting where
  begun_eq := h.begun_eq
  graph_eq := h.graph_eq
  answered_perm := h.answered_perm
  requests_eq := h.requests_eq
  given := by
    intro r hr
    apply h.given r
    simp only [List.mem_append] at hr ⊢
    rcases hr with (hr | hr) | hr
    · exact .inl (.inl hr)
    · rcases List.mem_append.mp hr with hr | hr
      · exact .inl (.inr hr)
      · exact .inr (.inl (mem_unclaimed hr).1)
    · exact .inr (.inr hr)
  covered := by
    intro r hr
    change r.id ∈ ((unclaimed s.claimed cs).map Resolution.id).reverse ++ s.claimed ∨ _
    rw [List.mem_append, List.mem_reverse]
    rcases h.covered r hr with hc | hc
    · exact .inl (.inr hc)
    · rw [List.map_append, List.mem_append] at hc
      rcases hc with hc | hc
      · obtain ⟨c, hcs, hi⟩ := List.mem_map.mp hc
        rw [← hi]
        exact .inl (exists_unclaimed hcs).symm
      · exact .inr hc
  led := h.led

/-- More requests are answered, and what they lead to waits. -/
theorem learn {t : RunState} {log : List (ResolveRequest × Resolution)}
    {read' : List (String × Resolution)} {made' : List p.Made}
    (h : s.Accounts directory read made waiting) (hread : read ⊆ read') (hmade : made ⊆ made')
    (hb : t.begun = made'.map (·.resolution)) (hg : t.graph = { nodes := made'.map (·.node) })
    (hp : ((entryLog directory read ++ made.flatMap (·.log)) ++ log).Perm
      (entryLog directory read' ++ made'.flatMap (·.log)))
    (ha : t.answered = s.answered ++ log) (hr : t.requests = s.requests + log.length)
    (hc : t.claimed = s.claimed) (hm : ∀ r ∈ t.begun ++ t.pending, r ∈ s.begun ++ s.pending)
    (hl : ∀ r ∈ log.map Prod.snd, Led read' made' r) :
    t.Accounts directory read' made' (waiting ++ log.map Prod.snd) where
  begun_eq := hb
  graph_eq := hg
  answered_perm := by
    rw [ha]
    exact (h.answered_perm.append_right log).trans hp
  requests_eq := by rw [hr, h.requests_eq, ha, List.length_append]
  given := by
    intro r hr
    rw [ha, List.map_append, List.mem_append]
    rw [← List.append_assoc, List.mem_append, List.mem_append] at hr
    rcases hr with (hr | hr) | hr
    · exact .inl (h.given r (List.mem_append_left _ (hm r hr)))
    · exact .inl (h.given r (List.mem_append_right _ hr))
    · exact .inr hr
  covered := by
    intro r hr
    rw [ha, List.map_append, List.mem_append] at hr
    rw [hc, List.map_append, List.mem_append]
    rcases hr with hr | hr
    · exact (h.covered r hr).imp_right .inl
    · exact .inr (.inr (List.mem_map_of_mem hr))
  led := by
    intro r hr
    rw [ha, List.map_append, List.mem_append] at hr
    rcases hr with hr | hr
    · exact (h.led r hr).mono hread hmade
    · exact hl r hr

/-- An entry is resolved, and waits to be claimed. -/
theorem entry (h : s.Accounts directory read made waiting) {e : String} {r : Resolution}
    (hr : value (resolve p (ResolveRequest.ofEntry e directory)) s = .ok r) :
    (state (resolve p (ResolveRequest.ofEntry e directory)) s).Accounts directory
      (read ++ [(e, r)]) made (waiting ++ [r]) := by
  have hl := resolve_links p (ResolveRequest.ofEntry e directory) s
  change Accounts directory _ (read ++ [(e, r)]) made
    (waiting ++ [(ResolveRequest.ofEntry e directory, r)].map Prod.snd)
  refine learn h ?_ ?_ ?_ ?_ ?_ (answered_resolve hr) (requests_resolve p _ s) hl.claimed ?_ ?_
  · exact List.subset_append_left _ _
  · exact List.Subset.refl _
  · exact hl.begun.trans h.begun_eq
  · exact (resolve_sameGraph p _ s).trans h.graph_eq
  · rw [entryLog, entryLog, List.map_append, List.append_assoc, List.append_assoc]
    exact List.perm_append_comm.append_left _
  · rw [hl.begun, hl.pending]
    exact fun _ => id
  · intro r' hr'
    rw [List.mem_singleton.mp hr']
    exact .entry (List.mem_append_right _ List.mem_cons_self)

/-- A task is done, and what its imports lead to waits to be claimed. -/
theorem task (h : s.Accounts directory read made waiting) {r : Resolution}
    {before later cs : List Resolution} (hp : s.pending = before ++ r :: later)
    (hv : value (process p r) (s.withPending (before ++ later)) = .ok cs) :
    ∃ t : p.Made, t.resolution = r ∧ cs = t.log.map Prod.snd ∧
      (state (process p r) (s.withPending (before ++ later))).answered = s.answered ++ t.log ∧
      (state (process p r) (s.withPending (before ++ later))).Accounts directory read
        (made ++ [t]) (waiting ++ cs) := by
  obtain ⟨log, m, hmakes, hcs, -, hg, ha, hq⟩ := process_ok hv
  have hb := process_begins p r (s.withPending (before ++ later))
  have hr : r ∈ s.begun ++ s.pending := by
    rw [hp]
    exact List.mem_append_right _ (List.mem_append_right _ List.mem_cons_self)
  have hbegun : (s.withPending (before ++ later)).begun = s.begun := rfl
  refine ⟨⟨r, log, m, hmakes⟩, rfl, hcs, ha, ?_⟩
  rw [hcs]
  refine learn h (List.Subset.refl _) (List.subset_append_left _ _) ?_ ?_ ?_ ha hq hb.claimed ?_ ?_
  · rw [hb.begun, hbegun, h.begun_eq, List.map_append]
    rfl
  · rw [hg]
    change s.graph.push m = _
    rw [h.graph_eq, List.map_append]
    rfl
  · rw [List.flatMap_append, List.flatMap_singleton, List.append_assoc]
  · rw [hb.begun, hb.pending, hbegun, hp]
    intro r' hr'
    simp only [withPending, List.mem_append, List.mem_cons, List.not_mem_nil] at hr' ⊢
    tauto
  · intro r' hr'
    obtain ⟨a, ha, rfl⟩ := List.mem_map.mp hr'
    refine .child (List.mem_append_right _ List.mem_cons_self) ?_ ha
    refine (h.led r (h.given r (List.mem_append_left _ hr))).mono (List.Subset.refl _) ?_
    exact List.subset_append_left _ _

end Accounts

end RunState

/-! ## The account of a build -/

namespace Driver

variable {p : BuildPlan} {directory : Path} {entries : List String} {d d' : Driver}
variable {read : List (String × Resolution)} {made : List p.Made}

/-- No task that waits to be handed back has failed. -/
def Clean (d : Driver) : Prop :=
  ∀ x ∈ d.done, ∃ cs, x = .ok cs

theorem clean_of_done_eq_nil (h : d.done = []) : d.Clean := by
  intro x hx
  rw [h] at hx
  cases hx

/-- What the imports of tasks lead to that wait to be handed back. -/
def waiting (d : Driver) : List Resolution :=
  d.done.flatMap fun x => x.toOption.getD []

/-- The account of a build that goes on. -/
structure Account {p : BuildPlan} (directory : Path) (entries : List String) (d : Driver)
    (read : List (String × Resolution)) (made : List p.Made) : Prop where
  entries_eq : entries = read.map Prod.fst ++ d.unread
  roots_eq : d.roots = read.map fun a => a.2.id
  accounts : d.run.Accounts directory read made d.waiting

theorem Step.clean_of (h : Step p directory d d') (hc : d'.Clean) : d.Clean := by
  cases h with
  | entry hu hv => exact hc
  | task hp => exact fun x hx => hc x (List.mem_append_left _ hx)
  | @handBack cs before later hu hd hv =>
    intro x hx
    rw [hd] at hx
    rcases List.mem_append.mp hx with hx | hx
    · exact hc x (List.mem_append_left _ hx)
    · rcases List.mem_cons.mp hx with rfl | hx
      · exact ⟨cs, rfl⟩
      · exact hc x (List.mem_append_right _ hx)

theorem Account.step (h : Account directory entries d read made) (hs : Step p directory d d')
    (hc : d'.Clean) :
    ∃ (read' : List (String × Resolution)) (made' : List p.Made),
      Account directory entries d' read' made' := by
  cases hs with
  | @entry e es id hu hv =>
    obtain ⟨r, hr, rfl, hs⟩ := resolveEntry_ok hv
    refine ⟨read ++ [(e, r)], made, ?_, ?_, ?_⟩
    · rw [h.entries_eq, hu, List.map_append, List.append_assoc]
      rfl
    · rw [h.roots_eq, List.map_append]
      rfl
    · have ha := (h.accounts.entry hr).perm List.perm_append_comm
      have hw := ha.withClaims
      rw [(resolve_links p _ d.run).claimed] at hw
      rw [hs]
      exact hw
  | @task r before later hp =>
    obtain ⟨cs, hv⟩ := hc _ (List.mem_append_right _ List.mem_cons_self)
    obtain ⟨t, -, -, -, ha⟩ := h.accounts.task hp hv
    refine ⟨read, made ++ [t], h.entries_eq, h.roots_eq, ?_⟩
    have hw : waiting
        { d with
          run := state (process p r) (d.run.withPending (before ++ later))
          done := d.done ++ [value (process p r) (d.run.withPending (before ++ later))] } =
        d.waiting ++ cs := by
      rw [waiting, hv, List.flatMap_append]
      simp [waiting, Except.toOption]
    rw [hw]
    exact ha
  | @handBack cs before later hu hd hv =>
    refine ⟨read, made, h.entries_eq, h.roots_eq, ?_⟩
    obtain ⟨new, -, hn, hw⟩ := claimAll_spec p cs d.run
    rw [hw hv] at hn
    rw [hn]
    refine RunState.Accounts.withClaims (h.accounts.perm ?_)
    rw [waiting, hd, waiting, List.flatMap_append, List.flatMap_cons, List.flatMap_append]
    exact List.perm_append_comm_assoc _ _ _

/-- A build that no task failed in has an account. -/
theorem exists_account (h : ReflTransGen (Step p directory) (start entries) d) (hc : d.Clean) :
    ∃ (read : List (String × Resolution)) (made : List p.Made),
      Account directory entries d read made := by
  induction h with
  | refl => exact ⟨[], [], rfl, rfl, RunState.Accounts.empty⟩
  | tail _ hs ih =>
    obtain ⟨read, made, h⟩ := ih (hs.clean_of hc)
    exact h.step hs hc

end Driver

/-! ## The account of a build that succeeded -/

/-- What a build comes to that read some entries and made some modules. -/
def graphOf {p : BuildPlan} (read : List (String × Resolution)) (made : List p.Made) :
    ModuleGraph :=
  { ({ nodes := made.map (·.node) } : ModuleGraph).marking (read.map fun a => a.2.id) with
    entryPoints := (read.map fun a => a.2.id).eraseDups }

/-- The account of a build that succeeded. -/
structure BuildPlan.Complete {p : BuildPlan} (directory : Path) (entries : List String)
    (s : RunState) (read : List (String × Resolution)) (made : List p.Made) : Prop where
  entries_eq : entries = read.map Prod.fst
  begun_eq : s.begun = made.map (·.resolution)
  graph_eq : s.graph = graphOf read made
  answered_perm : s.answered.Perm (entryLog directory read ++ made.flatMap (·.log))
  requests_eq : s.requests = s.answered.length
  resolves_eq : s.resolves = s.answers.length
  loads_eq : s.loads = s.walkedLoads.length
  walkedLoads_eq : s.walkedLoads = made.flatMap fun t => loadsOf t.resolution
  /-- Every module was made for the answer to a request. -/
  given : ∀ t ∈ made, t.resolution ∈ s.answered.map Prod.snd
  /-- Every answer to a request has its module. -/
  covered : ∀ r ∈ s.answered.map Prod.snd, r.id ∈ made.map (·.node.id)
  led : ∀ r ∈ s.answered.map Prod.snd, Led read made r
  ids_nodup : (made.map (·.node.id)).Nodup
  length_le : made.length ≤ p.maxModules
  remembers : s.Remembers
  honest : s.Honest p

namespace BuildPlan.Complete

variable {p : BuildPlan} {directory : Path} {entries : List String} {s : RunState}
variable {read : List (String × Resolution)} {made : List p.Made}

theorem mem_answered_of_read (h : Complete directory entries s read made)
    {a : String × Resolution} (ha : a ∈ read) :
    (ResolveRequest.ofEntry a.1 directory, a.2) ∈ s.answered := by
  rw [h.answered_perm.mem_iff, entryLog]
  exact List.mem_append_left _ (List.mem_map_of_mem ha)

theorem mem_answered_of_log (h : Complete directory entries s read made) {t : p.Made}
    (ht : t ∈ made) {a : ResolveRequest × Resolution} (ha : a ∈ t.log) : a ∈ s.answered := by
  rw [h.answered_perm.mem_iff]
  exact List.mem_append_right _ (List.mem_flatMap.mpr ⟨t, ht, ha⟩)

/-- The modules of the graph are those that were made, with the entries marked. -/
theorem nodes_eq (h : Complete directory entries s read made) :
    s.graph.nodes = made.map fun t =>
      { t.node with isEntry := decide (t.node.id ∈ read.map fun a => a.2.id) } := by
  rw [h.graph_eq, graphOf, ModuleGraph.nodes_marking, List.map_map]
  apply List.map_congr_left
  intro t _
  rw [Function.comp_apply, t.makes.isEntry_eq, Bool.or_false]

/-- The graph has one module for an identity. -/
theorem nodes_ids_nodup (h : Complete directory entries s read made) :
    (s.graph.nodes.map Module.id).Nodup := by
  rw [h.nodes_eq, List.map_map]
  exact h.ids_nodup

/-- The entries of the graph are what the entries were resolved to, in their order. -/
theorem entryPoints_eq (h : Complete directory entries s read made) :
    s.graph.entryPoints = (read.map fun a => a.2.id).eraseDups := by
  rw [h.graph_eq]
  rfl

end BuildPlan.Complete

namespace Driver

variable {p : BuildPlan} {directory : Path} {entries : List String} {d : Driver}
variable {read : List (String × Resolution)} {made : List p.Made}

theorem Account.ids_eq (h : Account directory entries d read made) :
    d.run.begun.map Resolution.id = made.map (·.node.id) := by
  rw [h.accounts.begun_eq, BuildPlan.ids_made]

/-- When nothing is left to do, all answers have their modules. -/
theorem Account.covered_done (h : Account directory entries d read made) (ht : d.run.Tracks)
    (hp : d.run.pending = []) (hd : d.done = []) {r : Resolution}
    (hr : r ∈ d.run.answered.map Prod.snd) : r.id ∈ made.map (·.node.id) := by
  rcases h.accounts.covered r hr with hc | hc
  · rw [ht.mem_claimed_iff, hp, List.append_nil, h.ids_eq] at hc
    exact hc
  · rw [waiting, hd] at hc
    cases hc

/-- When nothing is left to do, the entries can be declared. -/
theorem Account.declareEntries (h : Account directory entries d read made) (ht : d.run.Tracks)
    (hp : d.run.pending = []) (hd : d.done = []) :
    value (declareEntries d.roots) d.run = .ok () ∧
      state (declareEntries d.roots) d.run = { d.run with graph := graphOf read made } := by
  have hids : ∀ i ∈ d.roots, i ∈ d.run.graph.nodes.map Module.id := by
    intro i hi
    rw [h.roots_eq] at hi
    obtain ⟨a, ha, rfl⟩ := List.mem_map.mp hi
    have hr : a.2 ∈ d.run.answered.map Prod.snd := by
      rw [(h.accounts.answered_perm.map Prod.snd).mem_iff, List.map_append, entryLog, List.map_map]
      exact List.mem_append_left _ (List.mem_map_of_mem ha)
    have hc := h.covered_done ht hp hd hr
    rw [h.accounts.graph_eq, List.map_map]
    exact hc
  rw [value_declareEntries, state_declareEntries, ModuleGraph.setEntryPoints_of_subset hids,
    h.accounts.graph_eq, h.roots_eq]
  exact ⟨rfl, rfl⟩

theorem Account.complete (h : Account directory entries d read made)
    (hsteps : ReflTransGen (Step p directory) (start entries) d) (hu : d.unread = [])
    (hp : d.run.pending = []) (hd : d.done = []) :
    BuildPlan.Complete directory entries (state (Run.declareEntries d.roots) d.run) read made := by
  have ht := tracks_of_steps hsteps
  have htally := tallied_of_steps hsteps
  have hcap := capped_of_steps hsteps
  have hids : d.run.claimed.Perm (made.map (·.node.id)) := by
    have hperm := ht.claimed_perm
    rw [hp, List.append_nil, h.ids_eq] at hperm
    exact hperm
  have hs := (h.declareEntries ht hp hd).2
  rw [hs]
  exact
    { entries_eq := by rw [h.entries_eq, hu, List.append_nil]
      begun_eq := h.accounts.begun_eq
      graph_eq := rfl
      answered_perm := h.accounts.answered_perm
      requests_eq := h.accounts.requests_eq
      resolves_eq := by
        have hreq := h.accounts.requests_eq
        have hsum := htally.1
        change d.run.resolves = d.run.answers.length
        omega
      loads_eq := htally.2
      walkedLoads_eq := by
        rw [← List.flatMap_map, ← h.accounts.begun_eq]
        exact ht.walkedLoads_eq
      given := by
        intro t ht
        apply h.accounts.given
        rw [h.accounts.begun_eq]
        exact List.mem_append_left _ (List.mem_append_left _ (List.mem_map_of_mem ht))
      covered := fun r hr => h.covered_done ht hp hd hr
      led := h.accounts.led
      ids_nodup := hids.nodup_iff.mp ht.nodup
      length_le := by
        rw [Capped, hids.length_eq, List.length_map] at hcap
        exact hcap
      remembers := ht.remembers.of_eq rfl rfl
      honest := honest_of_steps hsteps }

/-- A build that ends well has nothing left to do and declares its entries. -/
theorem Ends.finish_of_ok {s : RunState} (h : d.Ends p directory (.ok ()) s) :
    d.unread = [] ∧ d.run.pending = [] ∧ d.done = [] ∧
      s = state (declareEntries d.roots) d.run := by
  generalize hx : (Except.ok () : Except BuildError Unit) = x at h
  cases h with
  | entry hu hv => cases hx
  | task hu hd => cases hx
  | claims hu hd hv => cases hx
  | finish hu hp hd => exact ⟨hu, hp, hd, rfl⟩

end Driver

theorem BuildPlan.Runs.finished {p : BuildPlan} {directory : Path} {entries : List String}
    {s : RunState} (h : p.Runs directory entries (.ok ()) s) :
    ∃ d, ReflTransGen (Driver.Step p directory) (Driver.start entries) d ∧ d.unread = [] ∧
      d.run.pending = [] ∧ d.done = [] ∧ s = state (declareEntries d.roots) d.run := by
  obtain ⟨d, hsteps, hends⟩ := h
  exact ⟨d, hsteps, hends.finish_of_ok⟩

/-- A build that succeeded, in whatever order, has a complete account. -/
theorem BuildPlan.Runs.complete {p : BuildPlan} {directory : Path} {entries : List String}
    {s : RunState} (h : p.Runs directory entries (.ok ()) s) :
    ∃ (read : List (String × Resolution)) (made : List p.Made),
      BuildPlan.Complete directory entries s read made := by
  obtain ⟨d, hsteps, hu, hp, hd, rfl⟩ := h.finished
  obtain ⟨read, made, hacc⟩ := Driver.exists_account hsteps (Driver.clean_of_done_eq_nil hd)
  exact ⟨read, made, hacc.complete hsteps hu hp hd⟩

/-! ## Builds that cannot fail -/

namespace Driver

variable {p : BuildPlan} {directory : Path} {entries : List String} {d : Driver}

/-- Wherever the build stands without a task that failed, nothing that is next can fail. -/
structure Unfailing (p : BuildPlan) (directory : Path) (entries : List String) : Prop where
  entry : ∀ {d read} {made : List p.Made} {e es},
    ReflTransGen (Step p directory) (start entries) d → Account directory entries d read made →
    d.unread = e :: es → ∃ id, value (resolveEntry p directory e) d.run = .ok id
  task : ∀ {d read} {made : List p.Made} {r before later},
    ReflTransGen (Step p directory) (start entries) d → Account directory entries d read made →
    d.run.pending = before ++ r :: later →
    ∃ cs, value (process p r) (d.run.withPending (before ++ later)) = .ok cs
  claims : ∀ {d read} {made : List p.Made} {cs},
    ReflTransGen (Step p directory) (start entries) d → Account directory entries d read made →
    d.unread = [] → .ok cs ∈ d.done → value (claimAll p cs) d.run = .ok ()

/-- No task of a build that cannot fail fails. -/
theorem Unfailing.clean (h : Unfailing p directory entries)
    (hsteps : ReflTransGen (Step p directory) (start entries) d) : d.Clean := by
  induction hsteps with
  | refl => exact fun _ hx => nomatch hx
  | tail hsteps hs ih =>
    cases hs with
    | entry hu hv => exact ih
    | handBack hu hd hv =>
      intro x hx
      apply ih x
      rw [hd]
      exact List.mem_append.mpr ((List.mem_append.mp hx).imp_right (List.mem_cons_of_mem _))
    | @task r before later hp =>
      obtain ⟨read, made, hacc⟩ := exists_account hsteps ih
      obtain ⟨cs, hv⟩ := h.task hsteps hacc hp
      intro x hx
      rcases List.mem_append.mp hx with hx | hx
      · exact ih x hx
      · rw [List.mem_singleton.mp hx]
        exact ⟨cs, hv⟩

/-- A build that cannot fail succeeds, in whatever order. -/
theorem Unfailing.ok (h : Unfailing p directory entries) {x : Except BuildError Unit}
    {s : RunState} (hr : p.Runs directory entries x s) : x = .ok () := by
  obtain ⟨d, hsteps, hends⟩ := hr
  have hclean := h.clean hsteps
  obtain ⟨read, made, hacc⟩ := exists_account hsteps hclean
  cases hends with
  | @entry e es x hu hv =>
    obtain ⟨id, hid⟩ := h.entry hsteps hacc hu
    rw [hid] at hv
    cases hv
  | @task x hu hd =>
    obtain ⟨cs, hcs⟩ := hclean _ hd
    cases hcs
  | @claims cs x hu hd hv =>
    rw [h.claims hsteps hacc hu hd] at hv
    cases hv
  | finish hu hp hd => exact (hacc.declareEntries (tracks_of_steps hsteps) hp hd).1

end Driver

end BundleGraph
