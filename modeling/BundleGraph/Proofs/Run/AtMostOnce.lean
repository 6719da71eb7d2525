import BundleGraph.Proofs.Run.Schedule
import Mathlib

/-!
# Nothing is done twice

Whatever the order of its tasks, and also when it fails, a build processes an identity once at
most, walks the loaders once at most for it and never for what is external, and does not walk
the resolvers again for a key that has an answer.  The callbacks need not give the same answer
to the same question.

## Main definitions

* `RunState.AtMostOnce` — what holds of the acts of a run.
* `Driver.atMostOnce_of_steps` — it holds wherever a build stands, and where it ends.
-/

namespace BundleGraph

open Relation Run

namespace RunState

/-- What holds of the acts of a run. -/
structure AtMostOnce (s : RunState) : Prop where
  /-- The claimed identities are those of the tasks that began and of the pending ones. -/
  claims : s.claimed.Perm ((s.begun ++ s.pending).map Resolution.id)
  /-- An identity has one task at most. -/
  tasks : (s.begun.map Resolution.id).Nodup
  /-- The loaders are walked once at most for an identity. -/
  loads : (s.walkedLoads.map LoadRequest.id).Nodup
  /-- The loaders are not walked for what is claimed as external. -/
  externals : ∀ r ∈ s.begun ++ s.pending, r.external = true →
    r.id ∉ s.walkedLoads.map LoadRequest.id
  /-- The resolvers are not walked for a key that has an answer. -/
  walks : s.acts.Pairwise fun a b => ¬ Act.Repeats a b

/-- The walks through the loaders are for tasks that are not external. -/
theorem mem_flatMap_loadsOf {rs : List Resolution} {q : LoadRequest}
    (h : q ∈ rs.flatMap loadsOf) : ∃ r ∈ rs, r.external = false ∧ q.id = r.id := by
  obtain ⟨r, hr, hq⟩ := List.mem_flatMap.mp h
  refine ⟨r, hr, ?_⟩
  by_cases he : r.external = true
  · rw [loadsOf_external he] at hq
    cases hq
  · rw [loadsOf_internal he, List.mem_singleton] at hq
    exact ⟨Bool.eq_false_iff.mpr he, by rw [hq]⟩

theorem nodup_flatMap_loadsOf {rs : List Resolution} (h : (rs.map Resolution.id).Nodup) :
    ((rs.flatMap loadsOf).map LoadRequest.id).Nodup := by
  refine h.sublist ?_
  clear h
  induction rs with
  | nil => simp
  | cons r rs ih =>
    rw [List.flatMap_cons, List.map_append, List.map_cons]
    by_cases he : r.external = true
    · rw [loadsOf_external he]
      exact ih.cons _
    · rw [loadsOf_internal he]
      exact ih.cons_cons _

theorem Tracks.atMostOnce {s : RunState} (h : s.Tracks) : s.AtMostOnce where
  claims := h.claimed_perm
  tasks := by
    have hn := h.ids_nodup
    rw [List.map_append] at hn
    exact List.Nodup.of_append_left hn
  loads := by
    have hn := h.ids_nodup
    rw [List.map_append] at hn
    rw [h.walkedLoads_eq]
    exact nodup_flatMap_loadsOf (List.Nodup.of_append_left hn)
  externals := by
    intro r hr he hi
    rw [h.walkedLoads_eq] at hi
    obtain ⟨q, hq, hqi⟩ := List.mem_map.mp hi
    obtain ⟨r', hr', he', hi'⟩ := mem_flatMap_loadsOf hq
    have heq : r' = r := List.inj_on_of_nodup_map h.ids_nodup (List.mem_append_left _ hr') hr
      (hi'.symm.trans hqi)
    rw [heq, he] at he'
    cases he'
  walks := h.remembers.once

end RunState

namespace Driver

/-- Nothing is done twice wherever a build stands, and where it ends.  Each step may have a
plan of its own, so that callbacks may change their answers between steps. -/
theorem atMostOnce_of_steps {directory : Path} {entries : List String} {d : Driver}
    (h : ReflTransGen (fun a b => ∃ p, Step p directory a b) (start entries) d) :
    d.run.AtMostOnce ∧ ∀ p x s, d.Ends p directory x s → s.AtMostOnce := by
  have htracks : d.run.Tracks := by
    induction h with
    | refl => exact RunState.tracks_empty
    | tail _ hstep ih =>
      obtain ⟨p, hstep⟩ := hstep
      exact hstep.tracks ih
  exact ⟨htracks.atMostOnce, fun p x s hends => (hends.tracks htracks).atMostOnce⟩

end Driver

/-- In particular, nothing is done twice by `Run.build`. -/
theorem Run.build_atMostOnce (p : BuildPlan) (entries : List String) (directory : Path) :
    (state (build p entries directory) {}).AtMostOnce := by
  obtain ⟨d, hsteps, hends⟩ := p.runs_build directory entries
  exact (hends.tracks (Driver.tracks_of_steps hsteps)).atMostOnce

/-- With a cycle, an external module and an entry given twice, two tasks run, the loaders are
walked once, and one of four requests is answered from before. -/
theorem Driver.atMostOnce_circle :
    ∃ s, BuildPlan.circle.Runs ⟨"/"⟩ ["circle", "circle"] (.ok ()) s ∧ s.AtMostOnce ∧
      s.begun.length = 2 ∧ s.walkedLoads.length = 1 ∧ s.resolves = 3 ∧ s.requests = 4 := by
  have hv : value (Run.build .circle ["circle", "circle"] ⟨"/"⟩) {} = .ok () := by cbv
  obtain ⟨d, hsteps, hends⟩ := BuildPlan.runs_build .circle ⟨"/"⟩ ["circle", "circle"]
  rw [hv] at hends
  refine ⟨_, ⟨d, hsteps, hends⟩, ?_, by cbv, by cbv, by cbv, by cbv⟩
  have hany : ReflTransGen (fun a b => ∃ p, Step p ⟨"/"⟩ a b) (start ["circle", "circle"]) d :=
    ReflTransGen.mono (fun _ _ h => ⟨_, h⟩) _ _ hsteps
  exact (atMostOnce_of_steps hany).2 _ _ _ hends

end BundleGraph
