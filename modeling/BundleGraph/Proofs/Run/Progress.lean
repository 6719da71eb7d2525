import BundleGraph.Proofs.Run.Schedule

/-!
# A build goes on, and not for ever

Wherever a build stands, it makes a step or it ends, so it never gets stuck.  And every step
uses up something: an entry that is unread, the room for one more task, or a task that waits to
be handed back.  A task that runs takes the room of one and then waits, so room counts twice.
The imports that a task finds do not come in here, however many they are: to claim what they
lead to takes no step of its own, and a task begins only for a claim that the limit allowed.

## Main definitions

* `Driver.progress` — a build makes a step or ends.
* `Driver.left`, `Driver.Step.left_lt` — the steps that are left at most.
* `RunState.Bounded` — claims, tasks and walks through the loaders are within a limit.
-/

namespace BundleGraph

open Relation Run

namespace RunState

/-- Claims, tasks and walks through the loaders are within a limit. -/
structure Bounded (limit : ℕ) (s : RunState) : Prop where
  claimed_le : s.claimed.length ≤ limit
  begun_le : s.begun.length ≤ limit
  loads_le : s.loads ≤ limit

/-- Within the limit of claims, all is within the limit. -/
theorem Tracks.bounded {s : RunState} (h : s.Tracks) (hl : s.loads = s.walkedLoads.length)
    {limit : ℕ} (hc : s.claimed.length ≤ limit) : s.Bounded limit := by
  have hlen := h.length_claimed
  have hloads := h.length_walkedLoads_le
  exact ⟨hc, by omega, by omega⟩

end RunState

namespace Driver

variable {p : BuildPlan} {directory : Path} {d d' : Driver}

/-- A build makes a step or ends, whatever it is answered. -/
theorem progress (p : BuildPlan) (directory : Path) (d : Driver) :
    (∃ d', Step p directory d d') ∨ ∃ x s, d.Ends p directory x s := by
  cases hu : d.unread with
  | cons e es =>
    cases hv : value (resolveEntry p directory e) d.run with
    | ok id => exact .inl ⟨_, .entry hu hv⟩
    | error x => exact .inr ⟨_, _, .entry hu hv⟩
  | nil =>
    cases hp : d.run.pending with
    | cons r rest => exact .inl ⟨_, @Step.task p directory d r [] rest hp⟩
    | nil =>
      cases hd : d.done with
      | nil => exact .inr ⟨_, _, .finish hu hp hd⟩
      | cons outcome later =>
        have hmem : outcome ∈ d.done := hd ▸ List.mem_cons_self
        cases outcome with
        | error x => exact .inr ⟨_, _, .task hu hmem⟩
        | ok cs =>
          cases hv : value (claimAll p cs) d.run with
          | ok u => exact .inl ⟨_, @Step.handBack p directory d cs [] later hu hd hv⟩
          | error x => exact .inr ⟨_, _, .claims hu hmem hv⟩

/-- The steps that are left at most: one for each unread entry, two for each task that there is
room for, and one for each task that waits to be handed back. -/
def left (limit : ℕ) (d : Driver) : ℕ :=
  d.unread.length + 2 * (limit - d.run.begun.length) + d.done.length

/-- Every step leaves fewer. -/
theorem Step.left_lt (h : Step p directory d d') (ht : d.run.Tracks) (hc : Capped p d.run) :
    d'.left p.maxModules < d.left p.maxModules := by
  cases h with
  | @entry e es id hu hv =>
    obtain ⟨r, _, _, hs⟩ := resolveEntry_ok hv
    have hb : (state (resolveEntry p directory e) d.run).begun = d.run.begun := by
      rw [hs]
      exact (resolve_links p _ d.run).begun
    simp only [left, hu, hb, List.length_cons]
    omega
  | @task r before later hp =>
    have hb := (process_begins p r (d.run.withPending (before ++ later))).begun
    have hlen : (state (process p r) (d.run.withPending (before ++ later))).begun.length =
        d.run.begun.length + 1 := by
      rw [hb, List.length_append]
      rfl
    -- The task was claimed, so there was room for it.
    have hroom : d.run.begun.length < p.maxModules := by
      have hclaimed := ht.length_claimed
      have hpending : d.run.pending.length = before.length + (later.length + 1) := by
        rw [hp, List.length_append, List.length_cons]
      rw [Capped] at hc
      omega
    simp only [left, hlen, List.length_append, List.length_singleton]
    omega
  | @handBack cs before later hu hd hv =>
    obtain ⟨new, _, hs, _⟩ := claimAll_spec p cs d.run
    have hb : (state (claimAll p cs) d.run).begun = d.run.begun := by
      rw [hs]
      rfl
    simp only [left, hd, hb, List.length_append, List.length_cons]
    omega

theorem Ends.tallied {x : Except BuildError Unit} {s : RunState} (h : d.Ends p directory x s)
    (hd : d.run.Tallied) : s.Tallied := by
  refine h.keeps (resolve_tallied p) (claim_within_of_withClaims fun _ _ hs => hs) ?_ hd
  intro ids s hs
  rw [state_declareEntries]
  exact hs

theorem Ends.capped {x : Except BuildError Unit} {s : RunState} (h : d.Ends p directory x s)
    (hd : Capped p d.run) : Capped p s := by
  refine h.keeps (fun q s => Capped.of_claimed (resolve_links p q s).claimed) (claim_capped p)
    ?_ hd
  intro ids s hs
  rw [state_declareEntries]
  exact hs

end Driver

/-- In whatever order its tasks run, a build comes to its end within its limit. -/
theorem BuildPlan.Runs.bounded {p : BuildPlan} {directory : Path} {entries : List String}
    {x : Except BuildError Unit} {s : RunState} (h : p.Runs directory entries x s) :
    s.Bounded p.maxModules := by
  obtain ⟨d, hsteps, hends⟩ := h
  have ht := hends.tracks (Driver.tracks_of_steps hsteps)
  have hl := hends.tallied (Driver.tallied_of_steps hsteps)
  exact ht.bounded hl.2 (hends.capped (Driver.capped_of_steps hsteps))

end BundleGraph
