import BundleGraph.Build.Report
import BundleGraph.Proofs.Run.Account
import Mathlib.Data.Finset.Card
import Mathlib.Data.List.Perm.Subperm

/-!
# The sums of a run

Three counts are kept while a build runs, and they can be told from the graph and from the
requests on record.  A request is that of an entry or that of an edge.  It is a walk the first
time its key comes up.  A task puts in one node, and it is a walk through the loaders unless
that node is external.  As long as no task has failed, these sums hold after every step, while
some tasks are pending and others wait to be handed back.

## Main definitions

* `RunState.requested` — the requests on record.
* `RunState.Balance` — the sums of a state.
* `Driver.Balanced` — the sums of a build that goes on, kept by every step.
-/

namespace BundleGraph

open Run

/-- The request that is made in an act. -/
def Act.requested? : Act → Option ResolveRequest
  | .walked q _ => some q
  | .recalled q _ => some q
  | _ => none

/-- An answered request is a request. -/
theorem Act.requested?_of_answered? {a : Act} {q : ResolveRequest} {r : Resolution}
    (h : a.answered? = some (q, r)) : a.requested? = some q := by
  cases a with
  | began r => cases h
  | loaded q x => cases h
  | recalled q' r' => cases h; rfl
  | walked q' x =>
    cases x with
    | error e => cases h
    | ok r' => cases h; rfl

namespace RunState

/-- The requests on record, answered or not. -/
def requested (s : RunState) : List ResolveRequest :=
  s.acts.filterMap Act.requested?

theorem requested_of_acts {s t : RunState} {l : List Act} (h : t.acts = s.acts ++ l) :
    t.requested = s.requested ++ l.filterMap Act.requested? := by
  rw [requested, h, List.filterMap_append, requested]

/-- What was answered was requested, in the same order. -/
theorem answered_sublist (acts : List Act) :
    ((acts.filterMap Act.answered?).map Prod.fst).Sublist (acts.filterMap Act.requested?) := by
  induction acts with
  | nil => exact .slnil
  | cons a acts ih =>
    cases ha : a.answered? with
    | some b =>
      rw [List.filterMap_cons_some ha,
        List.filterMap_cons_some (Act.requested?_of_answered? (q := b.1) (r := b.2) ha)]
      exact ih.cons_cons _
    | none =>
      rw [List.filterMap_cons_none ha]
      cases hr : a.requested? with
      | some q => rw [List.filterMap_cons_some hr]; exact ih.cons _
      | none => rw [List.filterMap_cons_none hr]; exact ih

/-- When as many requests were answered as were made, all of them were. -/
theorem requested_eq {s : RunState} (h : s.answered.length = s.requested.length) :
    s.requested = s.answered.map Prod.fst :=
  ((answered_sublist s.acts).eq_of_length (by rw [List.length_map]; exact h)).symm

/-- Every request is counted. -/
def Counted (s : RunState) : Prop :=
  s.requests = s.requested.length

/-- The keys with an answer, each counted once. -/
theorem Remembers.length_answers {s : RunState} (h : s.Remembers) :
    s.answers.length = (s.answered.map fun a => a.1.key).toFinset.card := by
  have hkeys : (s.answers.map Prod.fst).toFinset = (s.answered.map fun a => a.1.key).toFinset := by
    ext k
    rw [List.mem_toFinset, List.mem_toFinset, h.mem_keys_iff]
  rw [← hkeys, List.toFinset_card_of_nodup h.keys_nodup, List.length_map]

/-- What a request was answered with is kept as an answer. -/
theorem Remembers.mem_answers {s : RunState} (h : s.Remembers) {r : Resolution}
    (hr : r ∈ s.answered.map Prod.snd) : r ∈ s.answers.map Prod.snd := by
  obtain ⟨⟨q, r⟩, hq, rfl⟩ := List.mem_map.mp hr
  obtain ⟨a, ha, hk⟩ := Option.map_eq_some_iff.mp (h.kept q r hq)
  rw [← hk]
  exact List.mem_map_of_mem (List.mem_of_find?_eq_some ha)

end RunState

namespace Run

open RunState

variable {α : Type}

theorem resolve_counted (p : BuildPlan) (q : ResolveRequest) :
    Within (Carries Counted) (resolve p q) := by
  intro s hs
  cases h : s.answer? q.key with
  | some r =>
    rw [state_resolve_known h, Counted, requested_of_acts (s := s) rfl, List.length_append]
    exact congrArg (· + 1) hs
  | none =>
    rw [state_resolve_new h, state_walk, Counted, requested_of_acts (s := s) rfl,
      List.length_append]
    exact congrArg (· + 1) hs

/-- An act that is no request leaves the count alone. -/
theorem Counted.other {s t : RunState} {a : Act} (hs : s.Counted) (h : t.acts = s.acts ++ [a])
    (hr : t.requests = s.requests) (ha : a.requested? = none) : t.Counted := by
  rw [Counted, requested_of_acts h, hr, List.filterMap_cons_none ha, List.filterMap_nil,
    List.append_nil]
  exact hs

theorem process_counted (p : BuildPlan) (r : Resolution) :
    Within (Carries Counted) (process p r) := by
  refine process_within ?_ ?_ ?_ (resolve_counted p) ?_ r
  · exact fun s r' hs => Counted.other hs rfl rfl rfl
  · intro q s hs
    rw [state_load]
    exact Counted.other hs rfl rfl rfl
  · intro α w s hs
    rw [state_perform]
    exact hs
  · intro m s hs
    rw [state_addModule]
    exact hs

end Run

namespace RunState

/-- The sums of a state in which `read` entries were resolved, no task has failed, and `waiting`
is still to be claimed. -/
structure Balance (read : ℕ) (waiting : List Resolution) (s : RunState) : Prop where
  /-- A request is that of an entry or that of an edge. -/
  requests_eq : s.requests = read + s.graph.statistics.edgeCount
  /-- Every request was answered. -/
  answered_eq : s.answered.length = s.requests
  /-- A task puts in one node. -/
  nodes_eq : (s.graph.nodes.map fun m => (m.id, m.isExternal)) =
    s.begun.map fun r => (r.id, r.external)
  /-- What is claimed or waits to be was the answer to a request. -/
  given : ∀ r ∈ s.begun ++ s.pending ++ waiting, r ∈ s.answered.map Prod.snd

namespace Balance

variable {p : BuildPlan} {directory : Path} {s : RunState} {read : ℕ} {waiting : List Resolution}

theorem empty : Balance 0 [] {} :=
  ⟨rfl, rfl, rfl, fun _ h => nomatch h⟩

/-- What waits is claimed, or was claimed before. -/
theorem withClaims {cs new : List Resolution} (h : s.Balance read (cs ++ waiting))
    (hn : new ⊆ cs) : (withClaims s new).Balance read waiting where
  requests_eq := h.requests_eq
  answered_eq := h.answered_eq
  nodes_eq := h.nodes_eq
  given := by
    intro r hr
    apply h.given r
    simp only [List.mem_append] at hr ⊢
    rcases hr with (hr | hr) | hr
    · exact .inl (.inl hr)
    · rcases List.mem_append.mp hr with hr | hr
      · exact .inl (.inr hr)
      · exact .inr (.inl (hn hr))
    · exact .inr (.inr hr)

theorem perm {ws : List Resolution} (h : s.Balance read waiting) (hw : waiting.Perm ws) :
    s.Balance read ws where
  __ := h
  given := fun r hr => h.given r ((hw.append_left _).mem_iff.mpr hr)

/-- An entry is one request. -/
theorem entry (h : s.Balance read waiting) {q : ResolveRequest} {r : Resolution}
    (hr : value (resolve p q) s = .ok r) :
    (state (resolve p q) s).Balance (read + 1) ([r] ++ waiting) := by
  have hl := resolve_links p q s
  have hg : (state (resolve p q) s).graph = s.graph := resolve_sameGraph p q s
  refine ⟨?_, ?_, ?_, ?_⟩
  · rw [requests_resolve, hg, h.requests_eq]
    omega
  · rw [requests_resolve, answered_resolve hr, List.length_append, h.answered_eq]
    rfl
  · rw [hg, hl.begun, h.nodes_eq]
  · intro r' hr'
    rw [answered_resolve hr, List.map_append, List.mem_append]
    rw [List.singleton_append, hl.begun, hl.pending, List.mem_append, List.mem_cons] at hr'
    rcases hr' with hr' | rfl | hr'
    · exact .inl (h.given r' (List.mem_append_left _ hr'))
    · exact .inr List.mem_cons_self
    · exact .inl (h.given r' (List.mem_append_right _ hr'))

/-- A task is one node, with as many requests as it has edges. -/
theorem task (h : s.Balance read waiting) {r : Resolution} {before later cs : List Resolution}
    (hp : s.pending = before ++ r :: later)
    (hv : value (process p r) (s.withPending (before ++ later)) = .ok cs) :
    (state (process p r) (s.withPending (before ++ later))).Balance read (waiting ++ cs) := by
  obtain ⟨log, m, hmakes, rfl, -, hg, ha, hq⟩ := process_ok hv
  have hb := process_begins p r (s.withPending (before ++ later))
  have hedges : m.dependencies.length = log.length := by
    rw [hmakes.dependencies_eq, List.length_map]
  refine ⟨?_, ?_, ?_, ?_⟩
  · rw [hq, hg, ModuleGraph.edgeCount_push, hedges]
    change s.requests + log.length = read + (s.graph.statistics.edgeCount + log.length)
    rw [h.requests_eq, Nat.add_assoc]
  · rw [hq, ha, List.length_append]
    change s.answered.length + log.length = s.requests + log.length
    rw [h.answered_eq]
  · rw [hg, hb.begun, ModuleGraph.push, List.map_append, List.map_append]
    exact congrArg₂ (· ++ ·) h.nodes_eq (by simp [hmakes.id_eq, hmakes.isExternal_eq])
  · intro r' hr'
    rw [ha, List.map_append, List.mem_append]
    rw [hb.begun, hb.pending, List.mem_append, List.mem_append] at hr'
    have hold : r' ∈ s.begun ++ s.pending ∨ r' ∈ waiting ∨ r' ∈ log.map Prod.snd := by
      change (r' ∈ s.begun ++ [r] ∨ r' ∈ before ++ later) ∨ _ at hr'
      rw [hp]
      simp only [List.mem_append, List.mem_cons, List.not_mem_nil] at hr' ⊢
      tauto
    rcases hold with hold | hold | hold
    · exact .inl (h.given r' (List.mem_append_left _ hold))
    · exact .inl (h.given r' (List.mem_append_right _ hold))
    · exact .inr hold

/-- To declare entries changes no sum. -/
theorem declareEntries (h : s.Balance read waiting) (ids : List ModuleId) :
    (state (declareEntries ids) s).Balance read waiting := by
  rw [state_declareEntries]
  refine ⟨?_, h.answered_eq, ?_, h.given⟩
  · rw [h.requests_eq, ModuleGraph.edgeCount_eq, ModuleGraph.edgeCount_eq,
      ModuleGraph.map_nodes_setEntryPoints fun _ => rfl]
  · rw [ModuleGraph.map_nodes_setEntryPoints fun _ => rfl]
    exact h.nodes_eq

section
variable (h : s.Balance read waiting)
include h

theorem ids_eq : s.graph.nodes.map Module.id = s.begun.map Resolution.id := by
  have hn := congrArg (List.map Prod.fst) h.nodes_eq
  rw [List.map_map, List.map_map] at hn
  exact hn

theorem size_eq : s.graph.size = s.begun.length := by
  rw [ModuleGraph.size, ← List.length_map (f := Module.id), h.ids_eq, List.length_map]

/-- The walks through the loaders and the external nodes are all nodes. -/
theorem loads_add_externalCount (ht : s.Tracks) (hl : s.loads = s.walkedLoads.length) :
    s.loads + s.graph.statistics.externalCount = s.graph.size := by
  have hn := congrArg (List.map Prod.snd) h.nodes_eq
  rw [List.map_map, List.map_map] at hn
  have hexternal : s.graph.nodes.map Module.isExternal = s.begun.map Resolution.external := hn
  rw [hl, ht.walkedLoads_eq, ModuleGraph.externalCount_eq, hexternal, h.size_eq]
  exact length_flatMap_loadsOf s.begun

/-- As many requests were walked as there are answers. -/
theorem resolves_eq (hc : s.Tallied) : s.resolves = s.answers.length := by
  have hsum := hc.1
  have hans := h.answered_eq
  omega

/-- No two nodes have one identity. -/
theorem ids_nodup (ht : s.Tracks) : (s.graph.nodes.map Module.id).Nodup := by
  have hn := ht.ids_nodup
  rw [List.map_append] at hn
  rw [h.ids_eq]
  exact hn.of_append_left

/-- Each node has an answer of its own. -/
theorem size_le_resolves (ht : s.Tracks) (hc : s.Tallied) : s.graph.size ≤ s.resolves := by
  have hnodup := h.ids_eq ▸ h.ids_nodup ht
  have hsub : s.begun.map Resolution.id ⊆ (s.answers.map Prod.snd).map Resolution.id := by
    intro i hi
    obtain ⟨r, hr, rfl⟩ := List.mem_map.mp hi
    have hg := h.given r (List.mem_append_left _ (List.mem_append_left _ hr))
    exact List.mem_map_of_mem (ht.remembers.mem_answers hg)
  have hle := (List.Nodup.subperm hnodup hsub).length_le
  rw [h.resolves_eq hc, h.size_eq]
  simpa using hle

/-- The distinct keys of the requests are as many as the walks. -/
theorem resolves_eq_card (ht : s.Tracks) (hc : s.Tallied) (hr : s.Counted) :
    s.resolves = (s.requested.map ResolveRequest.key).toFinset.card := by
  rw [h.resolves_eq hc, ht.remembers.length_answers, requested_eq (h.answered_eq.trans hr),
    List.map_map]
  rfl

theorem resolves_le (ht : s.Tracks) (hc : s.Tallied) : s.resolves ≤ s.requests := by
  rw [h.resolves_eq hc, ht.remembers.length_answers, ← h.answered_eq]
  exact (List.toFinset_card_le _).trans (List.length_map _).le

end

end Balance

end RunState

namespace Driver

variable {p : BuildPlan} {directory : Path} {entries : List String} {d d' : Driver}

/-- The sums of a build that goes on. -/
def Balanced (entries : List String) (d : Driver) : Prop :=
  ∃ read, read + d.unread.length = entries.length ∧ d.run.Balance read d.waiting

theorem Step.counted (h : Step p directory d d') (hd : d.run.Counted) : d'.run.Counted := by
  refine h.keeps (resolve_counted p) ?_ (fun s r before later _ hs => process_counted p r _ hs) hd
  exact claim_within_of_withClaims fun _ _ hs => hs

theorem balanced_start (entries : List String) : (start entries).Balanced entries :=
  ⟨0, Nat.zero_add _, .empty⟩

/-- Every step keeps the sums, unless a task fails. -/
theorem Step.balanced (h : Step p directory d d') (hc : d'.Clean) (hd : d.Balanced entries) :
    d'.Balanced entries := by
  obtain ⟨read, hread, hb⟩ := hd
  cases h with
  | @entry e es id hu hv =>
    obtain ⟨r, hr, rfl, hs⟩ := resolveEntry_ok hv
    refine ⟨read + 1, ?_, ?_⟩
    · rw [← hread, hu, List.length_cons, Nat.add_assoc, Nat.add_comm 1]
    · change (state (resolveEntry p directory e) d.run).Balance (read + 1) d.waiting
      rw [hs]
      exact (hb.entry hr).withClaims fun _ hn => (mem_unclaimed hn).1
  | @task r before later hp =>
    obtain ⟨cs, hv⟩ := hc _ (List.mem_append_right _ List.mem_cons_self)
    refine ⟨read, hread, ?_⟩
    have hw := hb.task hp hv
    simpa [waiting, hv, Except.toOption] using hw
  | @handBack cs before later hu hd hv =>
    refine ⟨read, hread, ?_⟩
    obtain ⟨new, hn, hs, -⟩ := claimAll_spec p cs d.run
    have hw : d.waiting.Perm
        (cs ++ waiting { d with run := state (claimAll p cs) d.run, done := before ++ later }) := by
      rw [waiting, hd, waiting, List.flatMap_append, List.flatMap_cons, List.flatMap_append]
      exact List.perm_append_comm_assoc _ _ _
    have hb' := (hb.perm hw).withClaims fun r hr => (mem_unclaimed (hn.subset hr)).1
    rw [← hs] at hb'
    exact hb'

end Driver

end BundleGraph
