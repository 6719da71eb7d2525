import BundleGraph.Proofs.Run.Demand

/-!
# The first request of a key decides

A run answers a request with the answer to an earlier one when their keys are the same, and
keys tell neither the importer of a request nor the data that goes with it.  So what a request
is answered with is what the resolvers answer to the first request of its key, which may be
another one.  This needs no assumption on the resolvers.

## Main definitions

* `RunState.firstRequest?` — the first request of a key that was answered.
* `RunState.FirstDecides` — all requests are answered as the first of their key.
* `BuildPlan.Runs.firstDecides` — this holds of every run, in whatever order its tasks run.
-/

namespace BundleGraph

open Run

namespace RunState

variable {p : BuildPlan} {s t : RunState} {q : ResolveRequest} {r : Resolution}

/-- The first request of a key that was answered. -/
def firstRequest? (s : RunState) (k : ResolveKey) : Option ResolveRequest :=
  (s.answered.find? fun a => a.1.key == k).map Prod.fst

/-- What a request was answered with is what the resolvers answer to the first of its key. -/
def FirstDecides (p : BuildPlan) (s : RunState) : Prop :=
  ∀ q r, (q, r) ∈ s.answered → ∃ q₀, s.firstRequest? q.key = some q₀ ∧ p.Answers q₀ r

/-- A first request stays the first one. -/
theorem firstRequest?_append {l : List (ResolveRequest × Resolution)} {k : ResolveKey}
    (ha : t.answered = s.answered ++ l) (h : s.firstRequest? k = some q) :
    t.firstRequest? k = some q := by
  obtain ⟨a, hfind, rfl⟩ := Option.map_eq_some_iff.mp h
  rw [firstRequest?, ha, List.find?_append, hfind]
  rfl

/-- A request whose key is new is the first one of its key. -/
theorem firstRequest?_new (ha : t.answered = s.answered ++ [(q, r)])
    (h : ∀ a ∈ s.answered, a.1.key ≠ q.key) : t.firstRequest? q.key = some q := by
  have hnone : s.answered.find? (fun a => a.1.key == q.key) = none := by
    rw [List.find?_eq_none]
    intro a hm
    simpa using h a hm
  rw [firstRequest?, ha, List.find?_append, hnone, Option.none_or]
  simp

namespace FirstDecides

theorem of_answered (h : s.FirstDecides p) (ha : t.answered = s.answered) :
    t.FirstDecides p := by
  intro q r hr
  rw [ha] at hr
  obtain ⟨q₀, hq₀, hans⟩ := h q r hr
  exact ⟨q₀, firstRequest?_append (ha.trans (List.append_nil _).symm) hq₀, hans⟩

/-- It is enough to look at the request that was answered last. -/
theorem append (h : s.FirstDecides p) (ha : t.answered = s.answered ++ [(q, r)])
    (hq : ∃ q₀, t.firstRequest? q.key = some q₀ ∧ p.Answers q₀ r) : t.FirstDecides p := by
  intro q₁ r₁ h₁
  rw [ha] at h₁
  rcases List.mem_append.mp h₁ with h₁ | h₁
  · obtain ⟨q₀, hq₀, hans⟩ := h q₁ r₁ h₁
    exact ⟨q₀, firstRequest?_append ha hq₀, hans⟩
  · cases List.mem_singleton.mp h₁
    exact hq

/-- One more request is answered as an earlier one of its key. -/
theorem repeated (h : s.FirstDecides p) (ha : t.answered = s.answered ++ [(q, r)])
    {q' : ResolveRequest} (hk : q'.key = q.key) (hr : (q', r) ∈ s.answered) :
    t.FirstDecides p := by
  obtain ⟨q₀, hq₀, hans⟩ := h q' r hr
  rw [hk] at hq₀
  exact h.append ha ⟨q₀, firstRequest?_append ha hq₀, hans⟩

/-- One more request is answered by the resolvers, the first one of its key. -/
theorem learn (h : s.FirstDecides p) (ha : t.answered = s.answered ++ [(q, r)])
    (hnew : ∀ a ∈ s.answered, a.1.key ≠ q.key) (hr : p.Answers q r) : t.FirstDecides p :=
  h.append ha ⟨q, firstRequest?_new ha hnew, hr⟩

end FirstDecides

/-- A run remembers its answers, and the first request of a key decides. -/
def Decided (p : BuildPlan) (s : RunState) : Prop :=
  s.Remembers ∧ s.FirstDecides p

end RunState

namespace Run

open RunState

theorem resolve_decided (p : BuildPlan) (q : ResolveRequest) :
    Within (Carries (Decided p)) (resolve p q) := by
  rintro s ⟨hm, hd⟩
  refine ⟨(resolve_links p q s).remembers hm, ?_⟩
  cases h : s.answer? q.key with
  | some r =>
    have hv : value (resolve p q) s = .ok r := by
      rw [value_resolve, h]
    obtain ⟨q', hq', hk⟩ := hm.given q.key r h
    exact hd.repeated (answered_resolve hv) hk (mem_answered.mpr (.inl hq'))
  | none =>
    have hv : value (resolve p q) s = (p.resolve q).result := by
      rw [value_resolve, h]
    cases hr : (p.resolve q).result with
    | ok r =>
      refine hd.learn (answered_resolve (hv.trans hr)) ?_ hr
      rintro ⟨q', r'⟩ ha hk
      have hkept := hm.kept q' r' ha
      rw [hk, h] at hkept
      cases hkept
    | error e =>
      -- A walk that fails answers nothing.
      refine hd.of_answered ?_
      rw [state_resolve_new h, state_walk, hr]
      exact (answered_of_acts rfl).trans (List.append_nil _)

theorem process_decided (p : BuildPlan) (r : Resolution) :
    Within (Carries (Decided p)) (process p r) := by
  refine process_within ?_ ?_ ?_ (resolve_decided p) ?_ r
  · rintro s r' ⟨hm, hd⟩
    exact ⟨hm.other rfl (by simp), hd.of_answered (answered_withBegin s r')⟩
  · rintro q s ⟨hm, hd⟩
    refine ⟨?_, hd.of_answered (answered_load p q s)⟩
    rw [state_load]
    exact (hm.other (a := .loaded q (p.load q).result) rfl (by simp)).of_eq rfl rfl
  · rintro α w s ⟨hm, hd⟩
    exact ⟨(perform_links w s).remembers hm, hd.of_answered (answered_perform w s)⟩
  · rintro m s ⟨hm, hd⟩
    exact ⟨(addModule_links m s).remembers hm, hd.of_answered (answered_addModule m s)⟩

end Run

/-- Whatever the order of its tasks, and also when it fails, a run answers its requests as the
first ones of their keys. -/
theorem BuildPlan.Runs.firstDecides {p : BuildPlan} {directory : Path} {entries : List String}
    {x : Except BuildError Unit} {s : RunState} (h : p.Runs directory entries x s) :
    s.FirstDecides p := by
  have hclaim : ∀ r, Within (Carries (RunState.Decided p)) (claim p r) :=
    claim_within_of_withClaims fun s rs hs => ⟨hs.1.of_eq rfl rfl, hs.2.of_answered rfl⟩
  obtain ⟨d, hsteps, hends⟩ := h
  have hd : RunState.Decided p d.run := by
    refine Driver.run_induction ⟨RunState.tracks_empty.remembers, fun _ _ h => nomatch h⟩ ?_ hsteps
    intro d d' hstep hs
    refine hstep.keeps (resolve_decided p) hclaim ?_ hs
    exact fun s r before later _ hs =>
      process_decided p r _ ⟨hs.1.of_eq rfl rfl, hs.2.of_answered rfl⟩
  refine (hends.keeps (resolve_decided p) hclaim ?_ hd).2
  intro ids s hs
  rw [state_declareEntries]
  exact ⟨hs.1.of_eq rfl rfl, hs.2.of_answered rfl⟩

end BundleGraph
