import BundleGraph.Proofs.Run.Outcome
import Mathlib.Data.List.Forall2

/-!
# Requests and their answers

The acts of a run tell which requests were made and what they were answered with.  The
answers a run keeps are exactly those, one for each key, and a key that has an answer is not
walked again.

## Main definitions

* `RunState.begun`, `RunState.walkedLoads`, `RunState.answered` — the acts, seen as tasks, as
  walks through the loaders and as answered requests.
* `RunState.Remembers` — the answers that are kept are those that were given, and no key is
  walked again after it got one.
* `RunState.Honest` — the walks on record are those of a plan.
* `RunState.Tallied` — the counts agree with the record.
* `Run.Links` — what requests and work on the graph leave alone.
-/

namespace BundleGraph

/-- The task that begins with an act. -/
def Act.begun? : Act → Option Resolution
  | .began r => some r
  | _ => none

/-- The module that is walked through the loaders in an act. -/
def Act.loaded? : Act → Option LoadRequest
  | .loaded q _ => some q
  | _ => none

/-- The request that is answered in an act, and its answer. -/
def Act.answered? : Act → Option (ResolveRequest × Resolution)
  | .walked q (.ok r) => some (q, r)
  | .recalled q r => some (q, r)
  | _ => none

/-- The second act is a walk for a key to which the first gave an answer. -/
def Act.Repeats (a b : Act) : Prop :=
  ∃ q r q' x, a = .walked q (.ok r) ∧ b = .walked q' x ∧ q.key = q'.key

namespace RunState

/-- The tasks that began, in order. -/
def begun (s : RunState) : List Resolution :=
  s.acts.filterMap Act.begun?

/-- The walks through the loaders, in order. -/
def walkedLoads (s : RunState) : List LoadRequest :=
  s.acts.filterMap Act.loaded?

/-- The requests that were answered, in order, and their answers. -/
def answered (s : RunState) : List (ResolveRequest × Resolution) :=
  s.acts.filterMap Act.answered?

theorem begun_of_acts {s t : RunState} {l : List Act} (h : t.acts = s.acts ++ l) :
    t.begun = s.begun ++ l.filterMap Act.begun? := by
  rw [begun, h, List.filterMap_append, begun]

theorem walkedLoads_of_acts {s t : RunState} {l : List Act} (h : t.acts = s.acts ++ l) :
    t.walkedLoads = s.walkedLoads ++ l.filterMap Act.loaded? := by
  rw [walkedLoads, h, List.filterMap_append, walkedLoads]

theorem answered_of_acts {s t : RunState} {l : List Act} (h : t.acts = s.acts ++ l) :
    t.answered = s.answered ++ l.filterMap Act.answered? := by
  rw [answered, h, List.filterMap_append, answered]

/-- The answers that are kept are those that were given. -/
structure Remembers (s : RunState) : Prop where
  /-- A request that was answered has its answer kept for its key. -/
  kept : ∀ q r, (q, r) ∈ s.answered → s.answer? q.key = some r
  /-- What is kept came of a walk. -/
  given : ∀ k r, s.answer? k = some r → ∃ q, Act.walked q (.ok r) ∈ s.acts ∧ q.key = k
  /-- There is one answer for a key. -/
  keys_nodup : (s.answers.map Prod.fst).Nodup
  /-- A key with an answer is not walked again. -/
  once : s.acts.Pairwise fun a b => ¬ Act.Repeats a b

/-- The walks on record have the outcomes that a plan gives them. -/
def Honest (p : BuildPlan) (s : RunState) : Prop :=
  ∀ q x, Act.walked q x ∈ s.acts → (p.resolve q).result = x

/-- The counts agree with the record.  Each answered request is an answer kept or no walk, and
each request without an answer is a walk. -/
def Tallied (s : RunState) : Prop :=
  s.requests + s.answers.length = s.resolves + s.answered.length ∧
    s.loads = s.walkedLoads.length

/-- An answer came of a walk for its key. -/
theorem Remembers.exists_walk {s : RunState} (h : s.Remembers) {p : BuildPlan} (hp : s.Honest p)
    {q : ResolveRequest} {r : Resolution} (hr : (q, r) ∈ s.answered) :
    ∃ q', q'.key = q.key ∧ (p.resolve q').result = .ok r := by
  obtain ⟨q', hq', hk⟩ := h.given q.key r (h.kept q r hr)
  exact ⟨q', hk, hp q' _ hq'⟩

/-- Requests of one key have one answer. -/
theorem Remembers.eq_of_key {s : RunState} (h : s.Remembers) {q q' : ResolveRequest}
    {r r' : Resolution} (hr : (q, r) ∈ s.answered) (hr' : (q', r') ∈ s.answered)
    (hk : q.key = q'.key) : r = r' := by
  have h₁ := h.kept q r hr
  have h₂ := h.kept q' r' hr'
  rw [hk, h₂] at h₁
  exact (Option.some.inj h₁).symm

theorem mem_answered {s : RunState} {q : ResolveRequest} {r : Resolution} :
    (q, r) ∈ s.answered ↔ Act.walked q (.ok r) ∈ s.acts ∨ Act.recalled q r ∈ s.acts := by
  simp only [answered, List.mem_filterMap]
  constructor
  · rintro ⟨a, ha, h⟩
    cases a with
    | began r => cases h
    | loaded q x => cases h
    | recalled q' r' => cases h; exact .inr ha
    | walked q' x =>
      cases x with
      | error e => cases h
      | ok r' => cases h; exact .inl ha
  · rintro (h | h)
    · exact ⟨_, h, rfl⟩
    · exact ⟨_, h, rfl⟩

theorem mem_keys {s : RunState} {k : ResolveKey} :
    k ∈ s.answers.map Prod.fst ↔ ∃ r, s.answer? k = some r := by
  rw [← Option.isSome_iff_exists, answer?, Option.isSome_map, List.find?_isSome]
  simp

/-- The keys with an answer are those of the requests that were answered. -/
theorem Remembers.mem_keys_iff {s : RunState} (h : s.Remembers) {k : ResolveKey} :
    k ∈ s.answers.map Prod.fst ↔ k ∈ s.answered.map fun a => a.1.key := by
  rw [mem_keys, List.mem_map]
  constructor
  · rintro ⟨r, hr⟩
    obtain ⟨q, hq, hk⟩ := h.given k r hr
    exact ⟨(q, r), mem_answered.mpr (.inl hq), hk⟩
  · rintro ⟨⟨q, r⟩, hq, rfl⟩
    exact ⟨r, h.kept q r hq⟩

theorem answer?_append (s : RunState) (k k' : ResolveKey) (r : Resolution) :
    ({ s with answers := s.answers ++ [(k, r)] } : RunState).answer? k' =
      (s.answer? k').or (if k = k' then some r else none) := by
  simp only [answer?, List.find?_append, Option.map_or]
  by_cases h : k = k' <;> simp [h]

/-- An answer that is kept after one was learned is an earlier one or the one learned. -/
theorem answer?_of_append {s : RunState} {k k' : ResolveKey} {r r' : Resolution}
    (h : ({ s with answers := s.answers ++ [(k, r)] } : RunState).answer? k' = some r') :
    s.answer? k' = some r' ∨ k = k' ∧ r = r' := by
  rw [answer?_append] at h
  cases hk : s.answer? k' with
  | some r'' =>
    rw [hk, Option.some_or] at h
    exact .inl h
  | none =>
    rw [hk, Option.none_or] at h
    split at h
    · rename_i hkey
      exact .inr ⟨hkey, Option.some.inj h⟩
    · cases h

/-- What is remembered depends on the acts and the answers alone. -/
theorem Remembers.of_eq {s t : RunState} (hs : s.Remembers) (ha : t.acts = s.acts)
    (hb : t.answers = s.answers) : t.Remembers := by
  have hc : t.answered = s.answered := by rw [RunState.answered, ha, RunState.answered]
  have hd : t.answer? = s.answer? := by funext k; rw [answer?, hb, answer?]
  exact ⟨by rw [hc, hd]; exact hs.kept, by rw [ha, hd]; exact hs.given,
    by rw [hb]; exact hs.keys_nodup, by rw [ha]; exact hs.once⟩

/-- An act that answers no request and walks none changes nothing about the memory. -/
theorem Remembers.other {s : RunState} (hs : s.Remembers) {a : Act} (ha : a.answered? = none)
    (hw : ∀ q x, a ≠ .walked q x) :
    ({ s with acts := s.acts ++ [a] } : RunState).Remembers := by
  have hc : ({ s with acts := s.acts ++ [a] } : RunState).answered = s.answered := by
    exact (answered_of_acts rfl).trans (by simp [ha])
  refine ⟨by rw [hc]; exact hs.kept, ?_, hs.keys_nodup, ?_⟩
  · intro k r hr
    obtain ⟨q, hq, hk⟩ := hs.given k r hr
    exact ⟨q, List.mem_append_left _ hq, hk⟩
  refine List.pairwise_append.mpr ⟨hs.once, List.pairwise_singleton _ _, ?_⟩
  rintro a' _ b hb ⟨q₁, r₁, q₂, x, _, h₂, _⟩
  rw [List.mem_singleton.mp hb] at h₂
  exact hw q₂ x h₂

/-- A request that is answered from before is only put on record. -/
theorem Remembers.recall {s : RunState} (hs : s.Remembers) {q : ResolveRequest} {r : Resolution}
    (h : s.answer? q.key = some r) :
    ({ s with acts := s.acts ++ [.recalled q r] } : RunState).Remembers where
  kept := by
    intro q' r' h'
    simp only [RunState.answered, List.filterMap_append, List.mem_append] at h'
    rcases h' with h' | h'
    · exact hs.kept q' r' h'
    · simp only [List.filterMap_cons, List.filterMap_nil, Act.answered?, List.mem_singleton,
        Prod.mk.injEq] at h'
      rw [h'.1, h'.2]
      exact h
  given := by
    intro k r' h'
    obtain ⟨q', hq', hk⟩ := hs.given k r' h'
    exact ⟨q', List.mem_append_left _ hq', hk⟩
  keys_nodup := hs.keys_nodup
  once := by
    refine List.pairwise_append.mpr ⟨hs.once, List.pairwise_singleton _ _, ?_⟩
    rintro a _ b hb ⟨q₁, r₁, q₂, x, _, h₂, _⟩
    rw [List.mem_singleton.mp hb] at h₂
    cases h₂

/-- A walk for a key without an answer keeps what comes of it. -/
theorem Remembers.learn {s : RunState} (hs : s.Remembers) {q : ResolveRequest}
    (h : s.answer? q.key = none) (x : Except BuildError Resolution) :
    ({ s with acts := s.acts ++ [.walked q x], answers := Run.learn s.answers q.key x } :
      RunState).Remembers where
  kept := by
    intro q' r' h'
    simp only [RunState.answered, List.filterMap_append, List.mem_append] at h'
    rcases h' with h' | h'
    · have hk := hs.kept q' r' h'
      cases x with
      | error e => exact hk
      | ok r => exact (answer?_append s q.key q'.key r).trans (by rw [hk]; rfl)
    · cases x with
      | error e => simp [Act.answered?] at h'
      | ok r =>
        simp only [List.filterMap_cons, List.filterMap_nil, Act.answered?, List.mem_singleton,
          Prod.mk.injEq] at h'
        rw [h'.1, h'.2]
        exact (answer?_append s q.key q.key r).trans (by rw [h]; simp)
  given := by
    intro k r' h'
    simp only [List.mem_append]
    cases x with
    | error e =>
      obtain ⟨q', hq', hk⟩ := hs.given k r' h'
      exact ⟨q', .inl hq', hk⟩
    | ok r =>
      rcases answer?_of_append (s := s) h' with hold | ⟨hkey, rfl⟩
      · obtain ⟨q', hq', hk⟩ := hs.given k r' hold
        exact ⟨q', .inl hq', hk⟩
      · exact ⟨q, .inr List.mem_cons_self, hkey⟩
  keys_nodup := by
    cases x with
    | error e => exact hs.keys_nodup
    | ok r =>
      have hk : q.key ∉ s.answers.map Prod.fst := by
        rw [mem_keys, h]
        rintro ⟨r, hr⟩
        cases hr
      simp only [Run.learn, List.map_append, List.map_cons, List.map_nil]
      exact List.perm_append_comm.nodup_iff.mpr (List.nodup_cons.mpr ⟨hk, hs.keys_nodup⟩)
  once := by
    refine List.pairwise_append.mpr ⟨hs.once, List.pairwise_singleton _ _, ?_⟩
    rintro a ha b hb ⟨q₁, r₁, q₂, y, rfl, h₂, hk⟩
    rw [List.mem_singleton.mp hb] at h₂
    cases h₂
    have hk₁ := hs.kept q₁ r₁ (mem_answered.mpr (.inl ha))
    rw [hk, h] at hk₁
    cases hk₁

end RunState

namespace Run

open RunState

/-- What requests and work on the graph leave alone. -/
structure Links (s t : RunState) : Prop where
  claimed : t.claimed = s.claimed
  pending : t.pending = s.pending
  begun : t.begun = s.begun
  walkedLoads : t.walkedLoads = s.walkedLoads
  answered : s.answered <+: t.answered
  remembers : s.Remembers → t.Remembers

instance : IsPreorder RunState Links where
  refl _ := ⟨rfl, rfl, rfl, rfl, List.prefix_rfl, id⟩
  trans _ _ _ h h' :=
    ⟨h'.claimed.trans h.claimed, h'.pending.trans h.pending, h'.begun.trans h.begun,
      h'.walkedLoads.trans h.walkedLoads, h.answered.trans h'.answered,
      h'.remembers ∘ h.remembers⟩

/-- Two states with one graph. -/
def SameGraph (s t : RunState) : Prop := t.graph = s.graph

instance : IsPreorder RunState SameGraph where
  refl _ := rfl
  trans _ _ _ h h' := h'.trans h

/-- An act on record that is neither a task nor a load. -/
theorem Links.of_act {s t : RunState} {a : Act} (h : t.acts = s.acts ++ [a])
    (hc : t.claimed = s.claimed) (hp : t.pending = s.pending) (hb : a.begun? = none)
    (hl : a.loaded? = none) (hr : s.Remembers → t.Remembers) : Links s t where
  claimed := hc
  pending := hp
  begun := by rw [begun_of_acts h]; simp [hb]
  walkedLoads := by rw [walkedLoads_of_acts h]; simp [hl]
  answered := by rw [answered_of_acts h]; exact List.prefix_append _ _
  remembers := hr

theorem resolve_links (p : BuildPlan) (q : ResolveRequest) : Within Links (resolve p q) := by
  intro s
  cases h : s.answer? q.key with
  | some r =>
    rw [state_resolve_known h]
    exact Links.of_act rfl rfl rfl rfl rfl fun hs => (hs.recall h).of_eq rfl rfl
  | none =>
    rw [state_resolve_new h, state_walk]
    exact Links.of_act rfl rfl rfl rfl rfl fun hs => (hs.learn h (p.resolve q).result).of_eq rfl rfl

theorem resolve_sameGraph (p : BuildPlan) (q : ResolveRequest) :
    Within SameGraph (resolve p q) := by
  intro s
  cases h : s.answer? q.key with
  | some r => rw [state_resolve_known h]; rfl
  | none => rw [state_resolve_new h, state_walk]; rfl

theorem resolve_tallied (p : BuildPlan) (q : ResolveRequest) :
    Within (Carries Tallied) (resolve p q) := by
  rintro s ⟨hr, hl⟩
  cases h : s.answer? q.key with
  | some r =>
    rw [state_resolve_known h]
    refine ⟨?_, hl.trans (congrArg List.length ?_)⟩
    · rw [answered_of_acts (s := s) rfl, List.length_append]
      change s.requests + 1 + s.answers.length = s.resolves + (s.answered.length + 1)
      omega
    · exact ((walkedLoads_of_acts rfl).trans (List.append_nil _)).symm
  | none =>
    rw [state_resolve_new h, state_walk]
    refine ⟨?_, hl.trans (congrArg List.length ?_)⟩
    · rw [answered_of_acts (s := s) rfl, List.length_append]
      cases (p.resolve q).result with
      | ok r =>
        rw [learn, List.length_append]
        change s.requests + 1 + (s.answers.length + 1) = s.resolves + 1 + (s.answered.length + 1)
        omega
      | error e =>
        change s.requests + 1 + s.answers.length = s.resolves + 1 + s.answered.length
        omega
    · exact ((walkedLoads_of_acts rfl).trans (List.append_nil _)).symm

/-- Requests keep the record of walks honest. -/
theorem resolve_honest (p : BuildPlan) (q : ResolveRequest) :
    Within (Carries (Honest p)) (resolve p q) := by
  intro s hs q' x hx
  cases h : s.answer? q.key with
  | some r =>
    rw [state_resolve_known h] at hx
    exact hs q' x (by simpa using hx)
  | none =>
    rw [state_resolve_new h, state_walk] at hx
    rcases List.mem_append.mp hx with hx | hx
    · exact hs q' x hx
    · cases List.mem_singleton.mp hx
      rfl

/-- A request that is answered is on record with its answer. -/
theorem answered_resolve {p : BuildPlan} {q : ResolveRequest} {s : RunState} {r : Resolution}
    (h : value (resolve p q) s = .ok r) :
    (state (resolve p q) s).answered = s.answered ++ [(q, r)] := by
  rw [value_resolve] at h
  cases hk : s.answer? q.key with
  | some r' =>
    rw [hk] at h
    cases h
    rw [state_resolve_known hk]
    exact (answered_of_acts rfl).trans rfl
  | none =>
    rw [hk] at h
    have h' : (p.resolve q).result = .ok r := h
    rw [state_resolve_new hk, state_walk, h']
    exact (answered_of_acts rfl).trans rfl

theorem requests_resolve (p : BuildPlan) (q : ResolveRequest) (s : RunState) :
    (state (resolve p q) s).requests = s.requests + 1 := by
  cases h : s.answer? q.key with
  | some r => rw [state_resolve_known h]; rfl
  | none => rw [state_resolve_new h, state_walk]; rfl

/-- When the imports of a module are resolved, each has its request on record, in order. -/
theorem answered_resolveImports {p : BuildPlan} {id : ModuleId} {loaded : LoadedModule}
    {rs : List ImportRecord} {s : RunState} {cs : List (ImportRecord × Resolution)}
    (h : value (resolveImports p id loaded rs) s = .ok cs) :
    cs.map Prod.fst = rs ∧
      (state (resolveImports p id loaded rs) s).answered =
        s.answered ++ (cs.map fun c => (requestOf id loaded c.1, c.2)) ∧
      (state (resolveImports p id loaded rs) s).requests = s.requests + cs.length := by
  induction rs generalizing s cs with
  | nil => cases h; simp [resolveImports]
  | cons r rs ih =>
    obtain ⟨c, hc, h, hs⟩ := value_bind_ok h
    obtain ⟨cs', hcs, h, hs'⟩ := value_bind_ok h
    cases h
    obtain ⟨hr, ha, hq⟩ := ih hcs
    rw [resolveImports, hs, hs', state_pure, ha, hq, answered_resolve hc, requests_resolve]
    refine ⟨by simp [hr], by simp, ?_⟩
    rw [List.length_cons]
    omega

end Run

end BundleGraph
