import BundleGraph.Proofs.Run.Task
import Mathlib.Data.List.Nodup

/-!
# What is claimed, begun and walked

The claimed identities are those of the tasks that began and of the pending ones, each once,
and the loaders are walked once for each task that is not external.  Every step of a run keeps
this, also a step that fails.

## Main definitions

* `RunState.Tracks` — the claims agree with the tasks, and the tasks with the walks.
-/

namespace BundleGraph

open Run

namespace RunState

/-- The state in which other resolutions are pending. -/
def withPending (s : RunState) (rs : List Resolution) : RunState :=
  { s with pending := rs }

/-- The claims agree with the tasks, and the tasks with the walks. -/
structure Tracks (s : RunState) : Prop where
  remembers : s.Remembers
  claimed_perm : s.claimed.Perm ((s.begun ++ s.pending).map Resolution.id)
  nodup : s.claimed.Nodup
  walkedLoads_eq : s.walkedLoads = s.begun.flatMap loadsOf

/-- Nothing is tracked before a run. -/
theorem tracks_empty : ({} : RunState).Tracks where
  remembers :=
    ⟨fun _ _ h => by simp [answered] at h, fun _ _ h => by simp [answer?] at h, .nil, .nil⟩
  claimed_perm := .refl []
  nodup := .nil
  walkedLoads_eq := rfl

namespace Tracks

variable {s t : RunState}

theorem links (h : s.Tracks) (hl : Links s t) : t.Tracks where
  remembers := hl.remembers h.remembers
  claimed_perm := by
    rw [hl.claimed, hl.begun, hl.pending]
    exact h.claimed_perm
  nodup := by
    rw [hl.claimed]
    exact h.nodup
  walkedLoads_eq := by
    rw [hl.walkedLoads, hl.begun]
    exact h.walkedLoads_eq

/-- New identities are claimed with their tasks pending. -/
theorem withClaims (h : s.Tracks) {new rs : List Resolution}
    (hp : new <+: unclaimed s.claimed rs) : (withClaims s new).Tracks where
  remembers := h.remembers.of_eq rfl rfl
  claimed_perm := by
    change ((new.map Resolution.id).reverse ++ s.claimed).Perm
      ((s.begun ++ (s.pending ++ new)).map Resolution.id)
    rw [← List.append_assoc, List.map_append]
    exact ((List.reverse_perm _).append h.claimed_perm).trans List.perm_append_comm
  nodup := by
    change ((new.map Resolution.id).reverse ++ s.claimed).Nodup
    rw [List.nodup_append, List.nodup_reverse]
    refine ⟨(nodup_unclaimed s.claimed rs).sublist (hp.sublist.map _), h.nodup, ?_⟩
    rintro i hi _ hj rfl
    obtain ⟨r, hr, rfl⟩ := List.mem_map.mp (List.mem_reverse.mp hi)
    exact (mem_unclaimed (hp.subset hr)).2 hj
  walkedLoads_eq := h.walkedLoads_eq

/-- A pending task begins. -/
theorem task (h : s.Tracks) {r : Resolution} {before later : List Resolution}
    (hp : s.pending = before ++ r :: later)
    (hb : Begins r (s.withPending (before ++ later)) t) : t.Tracks where
  remembers := hb.remembers (h.remembers.of_eq rfl rfl)
  claimed_perm := by
    have hperm : (s.begun ++ s.pending).Perm (s.begun ++ [r] ++ (before ++ later)) := by
      rw [hp, List.append_assoc]
      exact (List.perm_middle).append_left s.begun
    rw [hb.claimed, hb.begun, hb.pending]
    exact h.claimed_perm.trans (hperm.map _)
  nodup := by
    rw [hb.claimed]
    exact h.nodup
  walkedLoads_eq := by
    rw [hb.walkedLoads, hb.begun, List.flatMap_append, List.flatMap_singleton]
    exact congrArg (· ++ loadsOf r) h.walkedLoads_eq

/-- A task begins once, and the pending ones have not begun. -/
theorem ids_nodup (h : s.Tracks) : ((s.begun ++ s.pending).map Resolution.id).Nodup :=
  h.claimed_perm.nodup_iff.mp h.nodup

theorem mem_claimed_iff (h : s.Tracks) {i : ModuleId} :
    i ∈ s.claimed ↔ i ∈ (s.begun ++ s.pending).map Resolution.id :=
  h.claimed_perm.mem_iff

theorem length_claimed (h : s.Tracks) :
    s.claimed.length = s.begun.length + s.pending.length := by
  rw [h.claimed_perm.length_eq, List.length_map, List.length_append]

/-- A task walks the loaders once at most. -/
theorem length_walkedLoads_le (h : s.Tracks) : s.walkedLoads.length ≤ s.begun.length := by
  rw [h.walkedLoads_eq, ← length_flatMap_loadsOf s.begun]
  exact Nat.le_add_right _ _

end Tracks

end RunState

namespace Run

open RunState

theorem claim_tracks (p : BuildPlan) (r : Resolution) : Within (Carries Tracks) (claim p r) := by
  intro s h
  obtain ⟨new, hp, hs, _⟩ := claim_spec p r s
  rw [hs]
  exact h.withClaims hp

theorem declareEntries_tracks (ids : List ModuleId) :
    Within (Carries Tracks) (declareEntries ids) := by
  intro s h
  rw [state_declareEntries]
  exact h.links ⟨rfl, rfl, rfl, rfl, List.prefix_rfl, fun h => h.of_eq rfl rfl⟩

end Run

end BundleGraph
