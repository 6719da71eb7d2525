import BundleGraph.Proofs.Run.Account

/-!
# The order of `Run.build`

`Run.build` reads its entries one after the other and works off the tasks in the order of their
claims.  So the requests stand on record with those of the entries first, followed by those of
each task in the order of the tasks, and the tasks stand in the order in which requests first
led to their identities.

## Main definitions

* `RunState.firstAnswer?` — the request that first led to an identity.
* `RunState.InOrder` — requests and tasks stand in that order.
* `BuildPlan.exists_inOrder` — they do when `Run.build` succeeds.
-/

namespace BundleGraph

open Run

/-! ## First occurrences -/

/-- What leads to a new identity is the first in the list that leads to it. -/
theorem Run.find?_of_mem_unclaimed {seen : List ModuleId} {rs : List Resolution} {r : Resolution}
    (h : r ∈ unclaimed seen rs) : rs.find? (fun a => a.id == r.id) = some r := by
  induction rs generalizing seen with
  | nil => simp [unclaimed] at h
  | cons a rs ih =>
    rw [unclaimed] at h
    by_cases ha : a.id ∈ seen
    · rw [if_pos ha] at h
      have hne : a.id ≠ r.id := fun hi => (mem_unclaimed h).2 (hi ▸ ha)
      rw [List.find?_cons_of_neg (by simpa using hne)]
      exact ih h
    · rw [if_neg ha] at h
      rcases List.mem_cons.mp h with rfl | h
      · exact List.find?_cons_of_pos (by simp)
      · have hne : a.id ≠ r.id := fun hi => (mem_unclaimed h).2 (hi ▸ List.mem_cons_self)
        rw [List.find?_cons_of_neg (by simpa using hne)]
        exact ih h

/-- The new identities are those that were not seen, later repeats dropped. -/
theorem Run.ids_unclaimed (seen : List ModuleId) (rs : List Resolution) :
    (unclaimed seen rs).map Resolution.id =
      ((rs.map Resolution.id).filter fun i => i ∉ seen).eraseDups := by
  induction rs generalizing seen with
  | nil => rfl
  | cons a rs ih =>
    rw [unclaimed, List.map_cons]
    by_cases ha : a.id ∈ seen
    · rw [if_pos ha, ih, List.filter_cons_of_neg (by simpa using ha)]
    · have hf : (fun i => decide (i ∉ a.id :: seen)) =
          fun i => !(i == a.id) && decide (i ∉ seen) := by
        funext i
        by_cases hi : i = a.id <;> simp [hi]
      rw [if_neg ha, List.map_cons, ih, hf, List.filter_cons_of_pos (by simpa using ha),
        List.eraseDups_cons, List.filter_filter]

theorem Run.ids_unclaimed_nil (rs : List Resolution) :
    (unclaimed [] rs).map Resolution.id = (rs.map Resolution.id).eraseDups := by
  rw [ids_unclaimed, List.filter_eq_self.mpr]
  intro i _
  simp

namespace RunState

/-- The request that first led to an identity, and its answer. -/
def firstAnswer? (s : RunState) (i : ModuleId) : Option (ResolveRequest × Resolution) :=
  s.answered.find? fun a => a.2.id == i

/-- The requests stand in the order of the entries and of the tasks, and the tasks in the order
in which requests first led to their identities. -/
structure InOrder {p : BuildPlan} (directory : Path) (s : RunState)
    (read : List (String × Resolution)) (made : List p.Made) : Prop where
  accounts : s.Accounts directory read made []
  tracks : s.Tracks
  answered_eq : s.answered = entryLog directory read ++ made.flatMap (·.log)
  queue_eq : s.begun ++ s.pending = unclaimed [] (s.answered.map Prod.snd)

namespace InOrder

variable {p : BuildPlan} {directory : Path} {s t : RunState}
variable {read : List (String × Resolution)} {made : List p.Made}

theorem empty : InOrder (p := p) directory {} [] [] :=
  ⟨.empty, tracks_empty, rfl, rfl⟩

/-- What is claimed is what was claimed before and what is new. -/
theorem queue_append (ht : s.Tracks) {rs cs : List Resolution}
    (hq : s.begun ++ s.pending = unclaimed [] rs) :
    unclaimed [] (rs ++ cs) = s.begun ++ (s.pending ++ unclaimed s.claimed cs) := by
  rw [unclaimed_append, ← hq, ← List.append_assoc]
  congr 1
  apply unclaimed_congr
  intro i
  rw [ht.mem_claimed_iff, List.append_nil, List.mem_reverse]

/-- More requests are answered, and what they lead to is claimed. -/
theorem claim {log : List (ResolveRequest × Resolution)} {read' : List (String × Resolution)}
    {made' : List p.Made} (h : s.InOrder directory read made) (ht : t.Tracks)
    (ha : t.answered = s.answered ++ log)
    (hacc : t.Accounts directory read' made' (log.map Prod.snd))
    (hlog : entryLog directory read ++ made.flatMap (·.log) ++ log =
      entryLog directory read' ++ made'.flatMap (·.log))
    (hq : t.begun ++ t.pending = s.begun ++ s.pending) :
    (withClaims t (unclaimed t.claimed (log.map Prod.snd))).InOrder directory read' made' where
  accounts := by
    rw [← List.append_nil (log.map Prod.snd)] at hacc
    exact hacc.withClaims
  tracks := ht.withClaims List.prefix_rfl
  answered_eq := by
    change t.answered = _
    rw [ha, h.answered_eq, hlog]
  queue_eq := by
    change t.begun ++ (t.pending ++ unclaimed t.claimed (log.map Prod.snd)) =
      unclaimed [] (t.answered.map Prod.snd)
    rw [ha, List.map_append]
    exact (queue_append ht (hq.trans h.queue_eq)).symm

/-- An entry is read before any task. -/
theorem entry (h : s.InOrder (p := p) directory read []) {e : String} {id : ModuleId}
    (hv : value (resolveEntry p directory e) s = .ok id) :
    ∃ r, id = r.id ∧
      (state (resolveEntry p directory e) s).InOrder (p := p) directory (read ++ [(e, r)]) [] := by
  obtain ⟨r, hr, rfl, hs⟩ := Driver.resolveEntry_ok hv
  have hl := resolve_links p (ResolveRequest.ofEntry e directory) s
  refine ⟨r, rfl, ?_⟩
  rw [hs, ← hl.claimed]
  refine claim h (h.tracks.links hl) (answered_resolve hr) (h.accounts.entry hr) ?_ ?_
  · rw [entryLog, entryLog, List.map_append]
    simp
  · rw [hl.begun, hl.pending]

/-- The first pending task is worked off. -/
theorem work (h : s.InOrder directory read made) {r : Resolution} {rest : List Resolution}
    (hp : s.pending = r :: rest) (hv : value (work p r) (s.withPending rest) = .ok ()) :
    ∃ t : p.Made,
      (state (Run.work p r) (s.withPending rest)).InOrder directory read (made ++ [t]) := by
  obtain ⟨cs, hx, hc, hs⟩ := value_bind_ok hv
  have hfirst : s.pending = [] ++ r :: rest := hp
  obtain ⟨t, rfl, rfl, ha, hacc⟩ := h.accounts.task hfirst hx
  have hb := process_begins p t.resolution (s.withPending rest)
  obtain ⟨new, -, hn, hw⟩ :=
    claimAll_spec p (t.log.map Prod.snd) (state (process p t.resolution) (s.withPending rest))
  rw [hw hc] at hn
  rw [Run.work, hs, hn]
  refine ⟨t, claim h (h.tracks.task hfirst hb) ha hacc ?_ ?_⟩
  · rw [List.flatMap_append, List.flatMap_singleton, List.append_assoc]
  · rw [hb.begun, hb.pending, hp, List.append_assoc]
    rfl

/-- Entries are read one after the other. -/
theorem resolveEntries {es : List String} {ids : List ModuleId}
    (h : s.InOrder (p := p) directory read [])
    (hv : value (resolveEntries p directory es) s = .ok ids) :
    ∃ read', es = read'.map Prod.fst ∧ ids = read'.map (fun a => a.2.id) ∧
      (state (Run.resolveEntries p directory es) s).InOrder (p := p) directory
        (read ++ read') [] := by
  induction es generalizing s read ids with
  | nil =>
    cases hv
    exact ⟨[], rfl, rfl, by rw [List.append_nil]; exact h⟩
  | cons e es ih =>
    obtain ⟨id, hid, hv, hs₁⟩ := value_bind_ok hv
    obtain ⟨ids', hids, hv, hs₂⟩ := value_bind_ok hv
    cases hv
    obtain ⟨r, rfl, hr⟩ := h.entry hid
    obtain ⟨read', rfl, rfl, hread⟩ := ih hr hids
    refine ⟨(e, r) :: read', rfl, rfl, ?_⟩
    rw [Run.resolveEntries, hs₁, hs₂, state_pure]
    rw [List.append_assoc] at hread
    exact hread

/-- Pending tasks are worked off one after the other. -/
theorem drain {n : ℕ} (h : s.InOrder directory read made) (hv : value (drain p n) s = .ok ()) :
    ∃ made' : List p.Made, (state (Run.drain p n) s).InOrder directory read made' := by
  induction n generalizing s made with
  | zero => exact ⟨made, h⟩
  | succ n ih =>
    cases hp : s.pending with
    | nil =>
      rw [(Driver.drain_nil p (n + 1) hp).2]
      exact ⟨made, h⟩
    | cons r rest =>
      obtain ⟨hd, hs⟩ := Driver.drain_cons p n hp
      rw [hd] at hv
      obtain ⟨_, hw, hv, hs'⟩ := value_bind_ok hv
      obtain ⟨t, ht⟩ := h.work hp hw
      rw [hs, hs']
      exact ih ht hv

end InOrder

end RunState

/-- The first answer that leads to the identity of a task is the one the task is for. -/
theorem RunState.firstAnswer?_of_mem {s : RunState} {r : Resolution}
    (h : r ∈ unclaimed [] (s.answered.map Prod.snd)) : ∃ q, s.firstAnswer? r.id = some (q, r) := by
  have hfirst := find?_of_mem_unclaimed h
  rw [List.find?_map, Option.map_eq_some_iff] at hfirst
  obtain ⟨⟨q, r⟩, hfind, rfl⟩ := hfirst
  exact ⟨q, hfind⟩

/-- When `Run.build` succeeds, its account stands in order and all tasks are done. -/
theorem BuildPlan.exists_inOrder {p : BuildPlan} {directory : Path} {entries : List String}
    (h : value (build p entries directory) {} = .ok ()) :
    ∃ (read : List (String × Resolution)) (made : List p.Made),
      BuildPlan.Complete directory entries (state (build p entries directory) {}) read made ∧
      (state (build p entries directory) {}).answered =
        entryLog directory read ++ made.flatMap (·.log) ∧
      made.map (·.resolution) =
        unclaimed [] ((state (build p entries directory) {}).answered.map Prod.snd) := by
  obtain ⟨ids, hids, h, hs₁⟩ := value_bind_ok h
  obtain ⟨_, hd, h, hs₂⟩ := value_bind_ok h
  obtain ⟨hsteps, hp⟩ := Driver.build_steps hids hd
  obtain ⟨read, hes, rfl, hread⟩ := RunState.InOrder.resolveEntries RunState.InOrder.empty hids
  rw [List.nil_append] at hread
  obtain ⟨made, hmade⟩ := hread.drain hd
  have hacc : Driver.Account directory entries
      { run := state (drain p p.maxModules) (state (resolveEntries p directory entries) {})
        unread := []
        roots := read.map fun a => a.2.id } read made :=
    ⟨hes.trans (List.append_nil _).symm, rfl, hmade.accounts⟩
  have hcomplete := hacc.complete hsteps rfl hp rfl
  refine ⟨read, made, ?_, ?_, ?_⟩
  · rw [build, hs₁, hs₂]
    exact hcomplete
  · rw [build, hs₁, hs₂, state_declareEntries]
    exact hmade.answered_eq
  · rw [build, hs₁, hs₂, state_declareEntries, ← hmade.accounts.begun_eq]
    have hq := hmade.queue_eq
    rw [hp, List.append_nil] at hq
    exact hq

end BundleGraph
