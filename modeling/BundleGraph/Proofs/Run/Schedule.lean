import BundleGraph.Proofs.Run.Worklist
import Mathlib.Logic.Relation

/-!
# Builds whose tasks run in any order

A build reads its entries in order, and every claim makes a task.  Any pending task may be
the next to run to its end, also while entries are still read.  What comes of a task waits
until it is handed back to the driver, in any order again, which then claims what the imports
of its module lead to.  To hand back each task right after it ran, once all entries are read,
is one of the orders, and `Run.build` takes the first pending task every time.

## Main definitions

* `Driver` — where such a build stands.
* `Driver.Step`, `Driver.Ends` — one step of it, and how it ends.
* `BuildPlan.Runs` — what a build comes to in some order.
* `BuildPlan.runs_build` — `Run.build` is one of the orders.
* `BuildPlan.circle` — a plan to try statements on.
-/

namespace BundleGraph

open Relation

/-- Where a build stands whose tasks run in any order. -/
structure Driver where
  run : RunState := {}
  /-- The entries that are not resolved yet. -/
  unread : List String
  /-- What the other entries lead to. -/
  roots : List ModuleId := []
  /-- What came of the tasks that are done and not handed back. -/
  done : List (Except BuildError (List Resolution)) := []

namespace Driver

/-- One step of a build in any order. -/
inductive Step (p : BuildPlan) (directory : Path) : Driver → Driver → Prop where
  /-- The next entry is resolved and claimed. -/
  | entry {d : Driver} {e : String} {es : List String} {id : ModuleId} (hu : d.unread = e :: es)
      (hv : Run.value (Run.resolveEntry p directory e) d.run = .ok id) :
      Step p directory d
        { d with
          run := Run.state (Run.resolveEntry p directory e) d.run
          unread := es
          roots := d.roots ++ [id] }
  /-- A pending task runs to its end. -/
  | task {d : Driver} {r : Resolution} {before later : List Resolution}
      (hp : d.run.pending = before ++ r :: later) :
      Step p directory d
        { d with
          run := Run.state (Run.process p r) (d.run.withPending (before ++ later))
          done := d.done ++ [Run.value (Run.process p r) (d.run.withPending (before ++ later))] }
  /-- A task is handed back, and what its imports lead to is claimed. -/
  | handBack {d : Driver} {cs : List Resolution}
      {before later : List (Except BuildError (List Resolution))} (hu : d.unread = [])
      (hd : d.done = before ++ .ok cs :: later)
      (hv : Run.value (Run.claimAll p cs) d.run = .ok ()) :
      Step p directory d
        { d with run := Run.state (Run.claimAll p cs) d.run, done := before ++ later }

/-- How a build ends, and in which state. -/
inductive Ends (p : BuildPlan) (directory : Path) (d : Driver) :
    Except BuildError Unit → RunState → Prop where
  /-- An entry is not resolved or not claimed. -/
  | entry {e : String} {es : List String} {x : BuildError} (hu : d.unread = e :: es)
      (hv : Run.value (Run.resolveEntry p directory e) d.run = .error x) :
      Ends p directory d (.error x) (Run.state (Run.resolveEntry p directory e) d.run)
  /-- A task that failed is handed back. -/
  | task {x : BuildError} (hu : d.unread = []) (hd : .error x ∈ d.done) :
      Ends p directory d (.error x) d.run
  /-- A task is handed back, and what its imports lead to is not claimed. -/
  | claims {cs : List Resolution} {x : BuildError} (hu : d.unread = []) (hd : .ok cs ∈ d.done)
      (hv : Run.value (Run.claimAll p cs) d.run = .error x) :
      Ends p directory d (.error x) (Run.state (Run.claimAll p cs) d.run)
  /-- All is done, and the entries are declared. -/
  | finish (hu : d.unread = []) (hp : d.run.pending = []) (hd : d.done = []) :
      Ends p directory d (Run.value (Run.declareEntries d.roots) d.run)
        (Run.state (Run.declareEntries d.roots) d.run)

/-- A build that has not begun. -/
def start (entries : List String) : Driver := { unread := entries }

end Driver

/-- In some order of its tasks, a build comes to `x` in the state `s`. -/
def BuildPlan.Runs (p : BuildPlan) (directory : Path) (entries : List String)
    (x : Except BuildError Unit) (s : RunState) : Prop :=
  ∃ d, ReflTransGen (Driver.Step p directory) (Driver.start entries) d ∧ d.Ends p directory x s

namespace Driver

open Run RunState

variable {p : BuildPlan} {directory : Path} {d d' : Driver}

/-! ## What every step keeps -/

section
variable {P : RunState → Prop}

/-- What requests, claims and tasks keep, every step keeps. -/
theorem Step.keeps (hask : ∀ q, Within (Carries P) (resolve p q))
    (hclaim : ∀ r, Within (Carries P) (claim p r))
    (htask : ∀ s r before later, s.pending = before ++ r :: later → P s →
      P (state (process p r) (s.withPending (before ++ later))))
    (h : Step p directory d d') (hd : P d.run) : P d'.run := by
  cases h with
  | entry hu hv => exact resolveEntry_within hask hclaim directory _ _ hd
  | task hp => exact htask _ _ _ _ hp hd
  | handBack hu hd' hv => exact claimAll_within hclaim _ _ hd

/-- What requests, claims and the declaration of entries keep is kept where a build ends. -/
theorem Ends.keeps (hask : ∀ q, Within (Carries P) (resolve p q))
    (hclaim : ∀ r, Within (Carries P) (claim p r))
    (hdeclare : ∀ ids, Within (Carries P) (declareEntries ids)) {x : Except BuildError Unit}
    {s : RunState} (h : d.Ends p directory x s) (hd : P d.run) : P s := by
  cases h with
  | entry hu hv => exact resolveEntry_within hask hclaim directory _ _ hd
  | task hu hd' => exact hd
  | claims hu hd' hv => exact claimAll_within hclaim _ _ hd
  | finish hu hp hd' => exact hdeclare _ _ hd

/-- What holds before a build and is kept by every step holds wherever the build stands. -/
theorem run_induction {entries : List String} (hstart : P {})
    (hstep : ∀ {d d'}, Step p directory d d' → P d.run → P d'.run)
    (h : ReflTransGen (Step p directory) (start entries) d) : P d.run := by
  induction h with
  | refl => exact hstart
  | tail _ hs ih => exact hstep hs ih

end

theorem Step.tracks (h : Step p directory d d') (hd : d.run.Tracks) : d'.run.Tracks :=
  h.keeps (fun q _ hs => hs.links (resolve_links p q _)) (claim_tracks p)
    (fun _ _ _ _ hp hs => hs.task hp (process_begins p _ _)) hd

theorem Ends.tracks {x : Except BuildError Unit} {s : RunState} (h : d.Ends p directory x s)
    (hd : d.run.Tracks) : s.Tracks :=
  h.keeps (fun q _ hs => hs.links (resolve_links p q _)) (claim_tracks p) declareEntries_tracks hd

/-- The walks on record are those of the plan. -/
theorem Step.honest (h : Step p directory d d') (hd : d.run.Honest p) : d'.run.Honest p := by
  refine h.keeps (resolve_honest p) ?_ (fun s r before later _ hs => process_honest p r _ hs) hd
  exact claim_within_of_withClaims fun _ _ hs => hs

theorem Step.tallied (h : Step p directory d d') (hd : d.run.Tallied) : d'.run.Tallied := by
  refine h.keeps (resolve_tallied p) ?_ (fun s r before later _ hs => process_tallied p r _ hs) hd
  exact claim_within_of_withClaims fun _ _ hs => hs

/-! ### The limit -/

/-- No more identities are claimed than a plan allows. -/
def Capped (p : BuildPlan) (s : RunState) : Prop :=
  s.claimed.length ≤ p.maxModules

theorem Capped.of_claimed {s t : RunState} (h : t.claimed = s.claimed) (hs : Capped p s) :
    Capped p t := by
  rw [Capped, h]
  exact hs

theorem claim_capped (p : BuildPlan) (r : Resolution) :
    Within (Carries (Capped p)) (claim p r) := by
  intro s h
  by_cases hr : r.id ∈ s.claimed
  · rw [(claim_claimed p hr).2]
    exact h
  · by_cases hf : p.maxModules ≤ s.claimed.length
    · rw [(claim_full hr hf).2]
      exact h
    · have hlt : s.claimed.length < p.maxModules := by omega
      rw [(claim_new hr hlt).2]
      exact hlt

theorem Step.capped (h : Step p directory d d') (hd : Capped p d.run) : Capped p d'.run :=
  h.keeps (fun q s => Capped.of_claimed (resolve_links p q s).claimed) (claim_capped p)
    (fun _ r _ _ _ hs => Capped.of_claimed (process_begins p r _).claimed hs) hd

section
variable {entries : List String} (h : ReflTransGen (Step p directory) (start entries) d)
include h

theorem tracks_of_steps : d.run.Tracks :=
  run_induction RunState.tracks_empty Step.tracks h

theorem honest_of_steps : d.run.Honest p :=
  run_induction (fun _ _ hx => nomatch hx) Step.honest h

theorem tallied_of_steps : d.run.Tallied :=
  run_induction ⟨rfl, rfl⟩ Step.tallied h

theorem capped_of_steps : Capped p d.run :=
  run_induction (Nat.zero_le _ : Capped p {}) Step.capped h

end

/-- When as many tasks began as there may be claims, none is pending. -/
theorem Capped.pending_eq_nil {s : RunState} (h : Capped p s) (ht : s.Tracks)
    (hb : s.begun.length = p.maxModules) : s.pending = [] := by
  have hlen := ht.length_claimed
  rw [Capped] at h
  exact List.eq_nil_of_length_eq_zero (by omega)

/-! ## The order of the claims -/

/-- Nothing is left to read or to hand back. -/
def Settled (d : Driver) : Prop := d.unread = [] ∧ d.done = []

/-- A task that is run first and handed back right after, and all claims are made. -/
theorem work_ok {r : Resolution} {rest : List Resolution} (hd : d.Settled)
    (hp : d.run.pending = r :: rest)
    (h : value (work p r) (d.run.withPending rest) = .ok ()) :
    ReflTransGen (Step p directory) d
        { d with run := state (work p r) (d.run.withPending rest) } ∧
      (state (work p r) (d.run.withPending rest)).begun = d.run.begun ++ [r] := by
  obtain ⟨cs, hx, hc, hs⟩ := value_bind_ok h
  have htask : Step p directory d _ := @Step.task p directory d r [] rest hp
  rw [List.nil_append, hd.2, List.nil_append, hx] at htask
  have hback := @Step.handBack p directory
    { d with run := state (process p r) (d.run.withPending rest), done := [.ok cs] }
    cs [] [] hd.1 rfl hc
  obtain ⟨new, _, hn, _⟩ := claimAll_spec p cs (state (process p r) (d.run.withPending rest))
  rw [work, hs]
  constructor
  · have hsteps := ReflTransGen.tail (.single htask) hback
    rw [List.append_nil, ← hd.2] at hsteps
    exact hsteps
  · rw [hn]
    exact (process_begins p r (d.run.withPending rest)).begun

/-- A task that is run first and handed back right after, and it or a claim fails. -/
theorem work_error {r : Resolution} {rest : List Resolution} {x : BuildError} (hd : d.Settled)
    (hp : d.run.pending = r :: rest)
    (h : value (work p r) (d.run.withPending rest) = .error x) :
    ∃ d', ReflTransGen (Step p directory) d d' ∧
      d'.Ends p directory (.error x) (state (work p r) (d.run.withPending rest)) := by
  have htask : Step p directory d _ := @Step.task p directory d r [] rest hp
  rw [List.nil_append, hd.2, List.nil_append] at htask
  rw [work, value_bind] at h
  rw [work, state_bind]
  cases hx : value (process p r) (d.run.withPending rest) with
  | error y =>
    rw [hx] at h htask
    cases h
    exact ⟨_, .single htask, .task hd.1 List.mem_cons_self⟩
  | ok cs =>
    rw [hx] at h htask
    exact ⟨_, .single htask, .claims hd.1 List.mem_cons_self h⟩

theorem drain_nil (p : BuildPlan) (n : ℕ) {s : RunState} (h : s.pending = []) :
    value (drain p n) s = .ok () ∧ state (drain p n) s = s := by
  cases n with
  | zero => exact ⟨rfl, rfl⟩
  | succ n =>
    simp only [drain, value_bind, state_bind, value_get, state_get, h, value_pure, state_pure,
      and_self]

theorem drain_cons (p : BuildPlan) (n : ℕ) {s : RunState} {r : Resolution}
    {rest : List Resolution} (h : s.pending = r :: rest) :
    value (drain p (n + 1)) s = value (do work p r; drain p n) (s.withPending rest) ∧
      state (drain p (n + 1)) s = state (do work p r; drain p n) (s.withPending rest) := by
  rw [drain, value_bind, state_bind, value_get, state_get]
  simp only [h]
  rw [value_bind, state_bind, value_set, state_set]
  exact ⟨rfl, rfl⟩

/-- To work pending tasks off is to run one after the other.  When all went well, no task is
left or as many began as there were to be. -/
theorem drain_steps (n : ℕ) (hd : d.Settled) :
    (value (drain p n) d.run = .ok () ∧
        ReflTransGen (Step p directory) d { d with run := state (drain p n) d.run } ∧
        ((state (drain p n) d.run).pending = [] ∨
          (state (drain p n) d.run).begun.length = d.run.begun.length + n)) ∨
      ∃ x d', value (drain p n) d.run = .error x ∧ ReflTransGen (Step p directory) d d' ∧
        d'.Ends p directory (.error x) (state (drain p n) d.run) := by
  induction n generalizing d with
  | zero => exact .inl ⟨rfl, .refl, .inr rfl⟩
  | succ n ih =>
    cases hp : d.run.pending with
    | nil =>
      obtain ⟨hv, hs⟩ := drain_nil p (n + 1) hp
      rw [hv, hs]
      exact .inl ⟨rfl, .refl, .inl hp⟩
    | cons r rest =>
      obtain ⟨hv, hs⟩ := drain_cons p n hp
      rw [value_bind] at hv
      rw [state_bind] at hs
      cases hw : value (work p r) (d.run.withPending rest) with
      | error x =>
        simp only [hw] at hv hs
        obtain ⟨d', hsteps, hends⟩ := work_error hd hp hw
        exact .inr ⟨x, d', hv, hsteps, hs ▸ hends⟩
      | ok u =>
        simp only [hw] at hv hs
        obtain ⟨hsteps, hb⟩ := work_ok hd hp hw
        rw [hv, hs]
        rcases @ih { d with run := state (work p r) (d.run.withPending rest) } hd with
          ⟨hv', hsteps', hlen⟩ | ⟨x, d', hv', hsteps', hends⟩
        · refine .inl ⟨hv', hsteps.trans hsteps', hlen.imp_right fun hl => ?_⟩
          rw [hl, hb, List.length_append, List.length_singleton]
          omega
        · exact .inr ⟨x, d', hv', hsteps.trans hsteps', hends⟩

/-- An entry is resolved like any request, and its identity is claimed if it is new. -/
theorem resolveEntry_ok {e : String} {id : ModuleId} {s : RunState}
    (h : value (resolveEntry p directory e) s = .ok id) :
    ∃ r, value (resolve p (ResolveRequest.ofEntry e directory)) s = .ok r ∧ id = r.id ∧
      state (resolveEntry p directory e) s =
        withClaims (state (resolve p (ResolveRequest.ofEntry e directory)) s)
          (unclaimed s.claimed [r]) := by
  obtain ⟨r, hr, h, hs₁⟩ := value_bind_ok h
  obtain ⟨_, hc, h, hs₂⟩ := value_bind_ok h
  cases h
  obtain ⟨new, _, hs, hn⟩ :=
    claim_spec p r (state (resolve p (ResolveRequest.ofEntry e directory)) s)
  rw [hn hc, (resolve_links p _ s).claimed] at hs
  refine ⟨r, hr, rfl, ?_⟩
  rw [resolveEntry, hs₁, hs₂, state_pure, hs]

/-- To resolve entries is to resolve one after the other, before any task runs. -/
theorem resolveEntries_steps (es : List String) (hu : d.unread = es) :
    (∃ ids, value (resolveEntries p directory es) d.run = .ok ids ∧
        ReflTransGen (Step p directory) d
          { d with
            run := state (resolveEntries p directory es) d.run
            unread := []
            roots := d.roots ++ ids } ∧
        (state (resolveEntries p directory es) d.run).begun = d.run.begun) ∨
      ∃ x d', value (resolveEntries p directory es) d.run = .error x ∧
        ReflTransGen (Step p directory) d d' ∧
        d'.Ends p directory (.error x) (state (resolveEntries p directory es) d.run) := by
  induction es generalizing d with
  | nil =>
    refine .inl ⟨[], rfl, ?_, rfl⟩
    rw [List.append_nil]
    cases d
    cases hu
    exact .refl
  | cons e es ih =>
    rw [resolveEntries, value_bind, state_bind]
    cases hv : value (resolveEntry p directory e) d.run with
    | error x => exact .inr ⟨x, d, rfl, .refl, .entry hu hv⟩
    | ok id =>
      have hstep := Step.entry hu hv
      obtain ⟨r, _, _, hs⟩ := resolveEntry_ok hv
      have hb : (state (resolveEntry p directory e) d.run).begun = d.run.begun := by
        rw [hs]
        exact (resolve_links p _ d.run).begun
      simp only [value_bind, state_bind, value_pure, state_pure]
      rcases @ih { d with
          run := state (resolveEntry p directory e) d.run
          unread := es
          roots := d.roots ++ [id] } rfl with
        ⟨ids, hv', hsteps, hb'⟩ | ⟨x, d', hv', hsteps, hends⟩
      · refine .inl ⟨id :: ids, ?_, ?_, ?_⟩
        · rw [hv']
        · rw [hv']
          rw [List.append_assoc, List.singleton_append] at hsteps
          exact .head hstep hsteps
        · rw [hv']
          exact hb'.trans hb
      · refine .inr ⟨x, d', ?_, .head hstep hsteps, ?_⟩
        · rw [hv']
        · rw [hv']
          exact hends

/-! ## The order of `Run.build` -/

section
variable {entries : List String} {ids : List ModuleId}

/-- A build that has read all entries. -/
theorem start_steps (h : value (resolveEntries p directory entries) {} = .ok ids) :
    ReflTransGen (Step p directory) (start entries)
        { run := state (resolveEntries p directory entries) {}, unread := [], roots := ids } ∧
      (state (resolveEntries p directory entries) {}).begun = [] := by
  rcases @resolveEntries_steps p directory (start entries) entries rfl with
    ⟨ids', hv, hsteps, hb⟩ | ⟨x, d, hv, hsteps, hends⟩
  · cases hv.symm.trans h
    exact ⟨hsteps, hb⟩
  · cases hv.symm.trans h

/-- A build that has read all entries and worked off all tasks.  As many tasks began as there
may be claims, or none is left before that. -/
theorem build_steps (h : value (resolveEntries p directory entries) {} = .ok ids)
    (hd : value (drain p p.maxModules) (state (resolveEntries p directory entries) {}) = .ok ()) :
    ReflTransGen (Step p directory) (start entries)
        { run := state (drain p p.maxModules) (state (resolveEntries p directory entries) {})
          unread := []
          roots := ids } ∧
      (state (drain p p.maxModules) (state (resolveEntries p directory entries) {})).pending =
        [] := by
  obtain ⟨hsteps, hb⟩ := start_steps h
  rcases @drain_steps p directory
      { run := state (resolveEntries p directory entries) {}, unread := [], roots := ids }
      p.maxModules ⟨rfl, rfl⟩ with
    ⟨_, hdsteps, hlen⟩ | ⟨x, d, hv, _, _⟩
  · have hall := hsteps.trans hdsteps
    refine ⟨hall, ?_⟩
    rcases hlen with hp | hlen
    · exact hp
    · refine (capped_of_steps hall).pending_eq_nil (tracks_of_steps hall) (hlen.trans ?_)
      rw [hb]
      exact Nat.zero_add _
  · cases hv.symm.trans hd

end

end Driver

open Run Driver in
/-- `Run.build` is one of the orders: it reads all entries, and then runs the first pending
task and hands it back, until no task is left. -/
theorem BuildPlan.runs_build (p : BuildPlan) (directory : Path) (entries : List String) :
    p.Runs directory entries (value (build p entries directory) {})
      (state (build p entries directory) {}) := by
  cases hv : value (resolveEntries p directory entries) {} with
  | error x =>
    obtain ⟨hbv, hbs⟩ := bind_of_error hv fun ids => do
      drain p p.maxModules
      declareEntries ids
    rw [build, hbv, hbs]
    rcases @resolveEntries_steps p directory (start entries) entries rfl with
      ⟨ids, hv', _, _⟩ | ⟨y, d, hv', hsteps, hends⟩
    · cases hv'.symm.trans hv
    · cases hv'.symm.trans hv
      exact ⟨d, hsteps, hends⟩
  | ok ids =>
    obtain ⟨hbv, hbs⟩ := bind_of_ok hv fun ids => do
      drain p p.maxModules
      declareEntries ids
    rw [build, hbv, hbs]
    cases hd : value (drain p p.maxModules) (state (resolveEntries p directory entries) {}) with
    | error x =>
      obtain ⟨hcv, hcs⟩ := bind_of_error hd fun _ => declareEntries ids
      rw [hcv, hcs]
      obtain ⟨hsteps, -⟩ := start_steps hv
      rcases @drain_steps p directory
          { run := state (resolveEntries p directory entries) {}, unread := [], roots := ids }
          p.maxModules ⟨rfl, rfl⟩ with
        ⟨hd', _, _⟩ | ⟨y, d, hd', hdsteps, hends⟩
      · cases hd'.symm.trans hd
      · cases hd'.symm.trans hd
        exact ⟨d, hsteps.trans hdsteps, hends⟩
    | ok u =>
      obtain ⟨hcv, hcs⟩ := bind_of_ok hd fun _ => declareEntries ids
      rw [hcv, hcs]
      obtain ⟨hsteps, hp⟩ := build_steps hv hd
      exact ⟨_, hsteps, Ends.finish rfl hp rfl⟩

/-- Every request leads to a module of its specifier, and only `outside` is external.  All
other modules import `circle` and `outside`. -/
def BuildPlan.circle : BuildPlan where
  resolve q := pure ⟨⟨q.specifier, "memory"⟩, q.specifier == "outside", none, none⟩
  load _ := pure ⟨"@import 'circle'; @import 'outside';", .css, none, none, none⟩
  followImports := true
  maxModules := 3

end BundleGraph
