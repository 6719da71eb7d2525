import BundleGraph.Proofs.Run.Asking
import BundleGraph.Proofs.Run.Demand

/-!
# Runs without a memory

A run that keeps no answers walks every request through the resolvers: it is the run that asks
anew every time, where `Run.build` asks through the memory.

When requests of one key fare alike, both runs go the same way.  What is kept under a key came
of the request that was first, with another importer perhaps, another kind or other data; it is
what the resolvers answer to every request of the key all the same.  Failures are not kept, but
a run that meets one ends there, so that they need not be.

## Main definitions

* `Run.resolveAnew` — resolves a request without a memory.
* `RunState.Mirrors` — two runs stand at the same place, and only one has a memory.
* `Run.build_alike` — whole runs with and without a memory come to the same.
-/

namespace BundleGraph

namespace Run

/-! ## Asking anew -/

/-- Resolves a request without a memory: it is walked through the resolvers every time. -/
def resolveAnew (p : BuildPlan) (q : ResolveRequest) : Run Resolution := do
  modify fun s => { s with requests := s.requests + 1, resolves := s.resolves + 1 }
  record (.walked q (p.resolve q).result)
  perform (p.resolve q)

@[simp] theorem value_resolveAnew (p : BuildPlan) (q : ResolveRequest) (s : RunState) :
    value (resolveAnew p q) s = (p.resolve q).result := by
  simp only [resolveAnew, value_bind, value_modify, value_record, value_perform]

theorem state_resolveAnew (p : BuildPlan) (q : ResolveRequest) (s : RunState) :
    state (resolveAnew p q) s =
      { s with
        requests := s.requests + 1
        resolves := s.resolves + 1
        notes := s.notes ++ (p.resolve q).notes
        acts := s.acts ++ [.walked q (p.resolve q).result] } := by
  simp only [resolveAnew, state_bind, value_modify, state_modify, value_record, state_record,
    state_perform]

end Run

/-! ## Two runs at the same place -/

namespace RunState

/-- Two runs of a plan stand at the same place: `s` has a memory, and `t` has none. -/
structure Mirrors (p : BuildPlan) (s t : RunState) : Prop where
  claimed_eq : t.claimed = s.claimed
  pending_eq : t.pending = s.pending
  graph_eq : t.graph = s.graph
  requests_eq : t.requests = s.requests
  loads_eq : t.loads = s.loads
  /-- Without a memory, every request is a walk. -/
  resolves_eq : t.resolves = t.requests
  /-- What is kept under a key is what the resolvers answer to every request of the key. -/
  sound : ∀ q r, s.answer? q.key = some r → p.Answers q r

variable {p : BuildPlan} {s t : RunState}

theorem mirrors_empty (p : BuildPlan) : ({} : RunState).Mirrors p {} :=
  ⟨rfl, rfl, rfl, rfl, rfl, rfl, fun _ _ h => nomatch h⟩

theorem mirrors_alongside (p : BuildPlan) : Alongside (Mirrors p) where
  place h := ⟨h.claimed_eq, h.pending_eq, h.graph_eq, h.loads_eq⟩
  kept := by
    intro s t s' t' h hs ht hplace
    simp only [asked, Prod.mk.injEq] at hs ht
    obtain ⟨hanswers, hsrequests, -⟩ := hs
    obtain ⟨-, htrequests, htresolves⟩ := ht
    refine ⟨hplace.claimed_eq, hplace.pending_eq, hplace.graph_eq, ?_, hplace.loads_eq, ?_, ?_⟩
    · rw [hsrequests, htrequests, h.requests_eq]
    · rw [htresolves, htrequests, h.resolves_eq]
    · intro q r hr
      rw [answer?, hanswers] at hr
      exact h.sound q r hr

end RunState

namespace Run

open RunState

variable {α : Type} {p : BuildPlan}

/-- Two steps, the second of a run without a memory, come to the same from the same place. -/
def Alike (p : BuildPlan) (m m' : Run α) : Prop :=
  ∀ s t, s.Mirrors p t → value m' t = value m s ∧ (state m s).Mirrors p (state m' t)

/-- A request that the memory answers is answered as the resolvers answer it. -/
theorem resolve_alike (hk : p.AnswersByKey) (q : ResolveRequest) :
    Alike p (resolve p q) (resolveAnew p q) := by
  intro s t h
  rw [value_resolve, value_resolveAnew, state_resolveAnew]
  have hrequests : t.requests + 1 = s.requests + 1 := congrArg (· + 1) h.requests_eq
  have hresolves : t.resolves + 1 = t.requests + 1 := congrArg (· + 1) h.resolves_eq
  cases hq : s.answer? q.key with
  | some r =>
    rw [state_resolve_known hq]
    exact ⟨h.sound q r hq, h.claimed_eq, h.pending_eq, h.graph_eq, hrequests, h.loads_eq,
      hresolves, h.sound⟩
  | none =>
    rw [state_resolve_new hq, state_walk]
    refine ⟨rfl, h.claimed_eq, h.pending_eq, h.graph_eq, hrequests, h.loads_eq, hresolves, ?_⟩
    intro q' r' hr'
    cases hr : (p.resolve q).result with
    | error e =>
      rw [hr] at hr'
      exact h.sound q' r' hr'
    | ok r =>
      -- The new answer is that of `q`, and so that of every request of its key.
      rw [hr] at hr'
      rcases answer?_of_append (s := s) hr' with hold | ⟨hkey, rfl⟩
      · exact h.sound q' r' hold
      · exact hk.answers hkey hr

/-- A run with a memory and one without come to the same, when requests of one key fare
alike. -/
theorem build_alike (hk : p.AnswersByKey) (entries : List String) (directory : Path) :
    Alike p (build p entries directory) (buildBy (resolveAnew p) p entries directory) := by
  rw [← buildBy_resolve]
  exact buildBy_follows (RunState.mirrors_alongside p) (.refl p) (resolve_alike hk) entries
    directory

end Run

end BundleGraph
