import BundleGraph.Proofs.Run.Schedule

/-!
# Runs under different limits

Two runs of one plan that differ in their limits alone go the same way as long as both have
room, since the limit is looked at only when a new identity is claimed.  So a run that succeeds
under some limit comes to the same under every limit that its claims keep to.  Under any other
limit it goes the same way up to the first claim beyond it, and fails there.

## Main definitions

* `BuildPlan.withLimit` — a plan with another limit.
* `Run.Limited` — a step that depends on a limit in this way.
* `Run.drain_rounds` — more rounds than there can be tasks change nothing.
* `Run.build_of_le_limit`, `Run.build_of_limit_lt` — a whole run under another limit.
-/

namespace BundleGraph

/-- The plan with another limit. -/
def BuildPlan.withLimit (p : BuildPlan) (k : ℕ) : BuildPlan :=
  { p with maxModules := k }

namespace Run

variable {α β : Type} {p : BuildPlan} {directory : Path} {s : RunState}

/-! ## Steps under limits -/

/-- From the state `s`, a step looks at its limit only where identities are claimed. -/
structure LimitedAt (m : ℕ → Run α) (s : RunState) : Prop where
  grows : ∀ n, s.claimed.length ≤ (state (m n) s).claimed.length
  /-- A limit that is kept makes no difference. -/
  fits : ∀ {n k a}, value (m n) s = .ok a → (state (m n) s).claimed.length ≤ k →
    value (m k) s = .ok a ∧ state (m k) s = state (m n) s
  /-- Beyond a limit the step fails, and with no other error. -/
  overflows : ∀ {n k a}, value (m n) s = .ok a → s.claimed.length ≤ k →
    k < (state (m n) s).claimed.length → value (m k) s = .error (.tooManyModules k)

/-- From every state, a step looks at its limit only where identities are claimed. -/
def Limited (m : ℕ → Run α) : Prop := ∀ s, LimitedAt m s

/-- A step that comes to the same as another one is limited like it. -/
theorem LimitedAt.congr {m m' : ℕ → Run α} {t : RunState} (h : LimitedAt m' t)
    (hv : ∀ n, value (m n) s = value (m' n) t ∧ state (m n) s = state (m' n) t)
    (hc : t.claimed = s.claimed) : LimitedAt m s where
  grows := by
    intro n
    rw [(hv n).2, ← hc]
    exact h.grows n
  fits := by
    intro n k a
    rw [(hv n).1, (hv n).2, (hv k).1, (hv k).2]
    exact h.fits
  overflows := by
    intro n k a
    rw [(hv n).1, (hv n).2, (hv k).1, ← hc]
    exact h.overflows

/-- A step that claims nothing knows no limit. -/
theorem Limited.const {m : Run α} (h : ∀ s, (state m s).claimed = s.claimed) :
    Limited fun _ => m := fun s =>
  { grows := fun _ => Nat.le_of_eq (congrArg List.length (h s).symm)
    fits := fun hv _ => ⟨hv, rfl⟩
    overflows := by
      intro n k a hv hk hlt
      rw [h s] at hlt
      omega }

/-- The claims of a sequence overflow in its first step or in its second. -/
theorem Limited.bind {m : ℕ → Run α} {f : ℕ → α → Run β} (hm : Limited m)
    (hf : ∀ a, Limited fun n => f n a) : Limited fun n => m n >>= f n := fun s =>
  { grows := by
      intro n
      rw [state_bind]
      cases value (m n) s with
      | ok a => exact Nat.le_trans ((hm s).grows n) ((hf a _).grows n)
      | error e => exact (hm s).grows n
    fits := by
      intro n k b hv hk
      obtain ⟨a, ha, hb, hs⟩ := value_bind_ok hv
      rw [hs] at hk ⊢
      obtain ⟨hva, hsa⟩ := (hm s).fits ha (Nat.le_trans ((hf a _).grows n) hk)
      obtain ⟨hvb, hsb⟩ := (hf a _).fits hb hk
      rw [(bind_of_ok hva _).1, (bind_of_ok hva _).2, hsa]
      exact ⟨hvb, hsb⟩
    overflows := by
      intro n k b hv hle hlt
      obtain ⟨a, ha, hb, hs⟩ := value_bind_ok hv
      rw [hs] at hlt
      by_cases hk : (state (m n) s).claimed.length ≤ k
      · obtain ⟨hva, hsa⟩ := (hm s).fits ha hk
        rw [(bind_of_ok hva _).1, hsa]
        exact (hf a _).overflows hb hk hlt
      · exact (bind_of_error ((hm s).overflows ha hle (Nat.lt_of_not_le hk)) _).1 }

/-- A claim overflows when its identity is new and the limit is reached. -/
theorem claim_limited (p : BuildPlan) (r : Resolution) :
    Limited fun n => claim (p.withLimit n) r := by
  intro s
  by_cases hr : r.id ∈ s.claimed
  · have hnone : Limited fun _ => (pure () : Run Unit) := .const fun _ => rfl
    exact (hnone s).congr (fun n => claim_claimed (p.withLimit n) hr) rfl
  · have hroom : ∀ {n u}, value (claim (p.withLimit n) r) s = .ok u → s.claimed.length < n := by
      intro n u hv
      refine Nat.lt_of_not_le fun hn => ?_
      rw [(claim_full (p := p.withLimit n) hr hn).1] at hv
      cases hv
    refine ⟨?_, ?_, ?_⟩
    · intro n
      obtain ⟨new, _, hs, _⟩ := claim_spec (p.withLimit n) r s
      rw [hs, withClaims, List.length_append]
      exact Nat.le_add_left _ _
    · intro n k u hv hk
      obtain ⟨_, hs⟩ := claim_new (p := p.withLimit n) hr (hroom hv)
      rw [hs] at hk ⊢
      exact claim_new (p := p.withLimit k) hr hk
    · intro n k u hv hle hlt
      obtain ⟨_, hs⟩ := claim_new (p := p.withLimit n) hr (hroom hv)
      rw [hs] at hlt
      exact (claim_full (p := p.withLimit k) hr (Nat.le_of_lt_succ hlt)).1

theorem claimAll_limited (p : BuildPlan) (rs : List Resolution) :
    Limited fun n => claimAll (p.withLimit n) rs := by
  induction rs with
  | nil => exact .const fun _ => rfl
  | cons r rs ih => exact (claim_limited p r).bind fun _ => ih

/-! ## What does not look at the limit -/

theorem resolveImports_withLimit (p : BuildPlan) (n : ℕ) (id : ModuleId) (loaded : LoadedModule)
    (rs : List ImportRecord) :
    resolveImports (p.withLimit n) id loaded rs = resolveImports p id loaded rs := by
  induction rs with
  | nil => rfl
  | cons r rs ih =>
    rw [resolveImports, resolveImports, ih]
    rfl

theorem process_withLimit (p : BuildPlan) (n : ℕ) (r : Resolution) :
    process (p.withLimit n) r = process p r := by
  have hlink : ∀ loaded, linkLoaded (p.withLimit n) r loaded = linkLoaded p r loaded := by
    intro loaded
    simp only [linkLoaded, resolveImports_withLimit]
    rfl
  simp only [process, processLoaded, hlink]
  rfl

theorem work_limited (p : BuildPlan) (r : Resolution) :
    Limited fun n => work (p.withLimit n) r := by
  simp only [work, process_withLimit]
  exact (Limited.const fun s => (process_begins p r s).claimed).bind (claimAll_limited p)

theorem resolveEntries_limited (p : BuildPlan) (directory : Path) (es : List String) :
    Limited fun n => resolveEntries (p.withLimit n) directory es := by
  induction es with
  | nil => exact .const fun _ => rfl
  | cons e es ih =>
    have hentry : Limited fun n => resolveEntry (p.withLimit n) directory e :=
      (Limited.const fun s => (resolve_links p _ s).claimed).bind fun r =>
        (claim_limited p r).bind fun _ => .const fun _ => rfl
    exact hentry.bind fun _ => ih.bind fun _ => .const fun _ => rfl

theorem drain_limited (p : BuildPlan) (m : ℕ) : Limited fun n => drain (p.withLimit n) m := by
  induction m with
  | zero => exact .const fun _ => rfl
  | succ m ih =>
    intro s
    cases hp : s.pending with
    | nil =>
      have hnone : Limited fun _ => (pure () : Run Unit) := .const fun _ => rfl
      exact (hnone s).congr (fun n => Driver.drain_nil (p.withLimit n) (m + 1) hp) rfl
    | cons r rest =>
      have hround : Limited fun n => work (p.withLimit n) r >>= fun _ => drain (p.withLimit n) m :=
        (work_limited p r).bind fun _ => ih
      exact (hround (s.withPending rest)).congr
        (fun n => Driver.drain_cons (p.withLimit n) m hp) rfl

/-! ## Rounds -/

/-- The whole run, with the number of rounds given. -/
def buildIn (rounds : ℕ) (p : BuildPlan) (directory : Path) (entries : List String) :
    Run Unit := do
  let ids ← resolveEntries p directory entries
  drain p rounds
  declareEntries ids

theorem buildIn_limited (rounds : ℕ) (p : BuildPlan) (directory : Path) (entries : List String) :
    Limited fun n => buildIn rounds (p.withLimit n) directory entries := by
  refine (resolveEntries_limited p directory entries).bind fun ids =>
    (drain_limited p rounds).bind fun _ => .const fun s => ?_
  rw [state_declareEntries]

/-- A task that is worked off has begun, and its claims are within the limit. -/
theorem work_keeps {r : Resolution} {rest : List Resolution} (ht : s.Tracks)
    (hc : Driver.Capped p s) (hp : s.pending = r :: rest)
    (h : value (work p r) (s.withPending rest) = .ok ()) :
    (state (work p r) (s.withPending rest)).Tracks ∧
      Driver.Capped p (state (work p r) (s.withPending rest)) ∧
      (state (work p r) (s.withPending rest)).begun = s.begun ++ [r] := by
  obtain ⟨cs, _, _, hs⟩ := value_bind_ok h
  have hfirst : s.pending = [] ++ r :: rest := hp
  have hb := process_begins p r (s.withPending rest)
  have htask := ht.task hfirst hb
  obtain ⟨new, _, hn, _⟩ := claimAll_spec p cs (state (process p r) (s.withPending rest))
  rw [work, hs]
  refine ⟨claimAll_within (claim_tracks p) cs _ htask, ?_, ?_⟩
  · exact claimAll_within (Driver.claim_capped p) cs _ (Driver.Capped.of_claimed hb.claimed hc)
  · rw [hn]
    exact hb.begun

/-- More rounds than there can be tasks change nothing. -/
theorem drain_rounds {m m' : ℕ} (ht : s.Tracks) (hc : Driver.Capped p s)
    (hm : p.maxModules ≤ s.begun.length + m) (hm' : p.maxModules ≤ s.begun.length + m') :
    value (drain p m) s = value (drain p m') s ∧ state (drain p m) s = state (drain p m') s := by
  induction m generalizing s m' with
  | zero =>
    have hlen := ht.length_claimed
    rw [Driver.Capped] at hc
    have hp : s.pending = [] := List.eq_nil_of_length_eq_zero (by omega)
    rw [(Driver.drain_nil p 0 hp).1, (Driver.drain_nil p 0 hp).2]
    rw [(Driver.drain_nil p m' hp).1, (Driver.drain_nil p m' hp).2]
    exact ⟨rfl, rfl⟩
  | succ m ih =>
    cases hp : s.pending with
    | nil =>
      rw [(Driver.drain_nil p (m + 1) hp).1, (Driver.drain_nil p (m + 1) hp).2]
      rw [(Driver.drain_nil p m' hp).1, (Driver.drain_nil p m' hp).2]
      exact ⟨rfl, rfl⟩
    | cons r rest =>
      have hlen := ht.length_claimed
      rw [hp, List.length_cons] at hlen
      cases m' with
      | zero =>
        rw [Driver.Capped] at hc
        omega
      | succ m' =>
        obtain ⟨hv, hs⟩ := Driver.drain_cons p m hp
        obtain ⟨hv', hs'⟩ := Driver.drain_cons p m' hp
        rw [hv, hs, hv', hs', value_bind, value_bind, state_bind, state_bind]
        cases hw : value (work p r) (s.withPending rest) with
        | error e => exact ⟨rfl, rfl⟩
        | ok u =>
          obtain ⟨ht', hc', hb⟩ := work_keeps ht hc hp hw
          have hlen' : (state (work p r) (s.withPending rest)).begun.length =
              s.begun.length + 1 := by
            rw [hb, List.length_append]
            rfl
          exact ih ht' hc' (by omega) (by omega)

theorem resolveEntries_within {R : RunState → RunState → Prop} [IsPreorder RunState R]
    (h : ∀ e, Within R (resolveEntry p directory e)) (es : List String) :
    Within R (resolveEntries p directory es) := by
  induction es with
  | nil => exact Within.pure []
  | cons e es ih => exact (h e).bind fun id => ih.bind fun ids => Within.pure _

/-- A run may be given more rounds than its limit. -/
theorem build_eq_buildIn {rounds : ℕ} (h : p.maxModules ≤ rounds) (directory : Path)
    (entries : List String) :
    value (build p entries directory) {} = value (buildIn rounds p directory entries) {} ∧
      state (build p entries directory) {} = state (buildIn rounds p directory entries) {} := by
  have htracks : ∀ q, Within (Carries RunState.Tracks) (resolve p q) :=
    fun q s hs => hs.links (resolve_links p q s)
  have hcapped : ∀ q, Within (Carries (Driver.Capped p)) (resolve p q) :=
    fun q s => Driver.Capped.of_claimed (resolve_links p q s).claimed
  have ht : (state (resolveEntries p directory entries) {}).Tracks :=
    resolveEntries_within (resolveEntry_within htracks (claim_tracks p) directory) entries {}
      RunState.tracks_empty
  have hc : Driver.Capped p (state (resolveEntries p directory entries) {}) :=
    resolveEntries_within (resolveEntry_within hcapped (Driver.claim_capped p) directory) entries {}
      (Nat.zero_le _)
  obtain ⟨hv, hs⟩ := drain_rounds ht hc (Nat.le_add_left p.maxModules _)
    (Nat.le_trans h (Nat.le_add_left rounds _))
  simp only [build, buildIn, value_bind, state_bind, hv, hs, and_self]

/-! ## Whole runs under limits -/

section
variable {entries : List String} {n k : ℕ}
  (h : value (build (p.withLimit n) entries directory) {} = .ok ())
include h

/-- A run that succeeds comes to the same under every limit that its claims keep to. -/
theorem build_of_le_limit
    (hk : (state (build (p.withLimit n) entries directory) {}).claimed.length ≤ k) :
    value (build (p.withLimit k) entries directory) {} = .ok () ∧
      state (build (p.withLimit k) entries directory) {} =
        state (build (p.withLimit n) entries directory) {} := by
  obtain ⟨hvn, hsn⟩ := build_eq_buildIn (p := p.withLimit n) (Nat.le_max_left n k) directory entries
  obtain ⟨hvk, hsk⟩ := build_eq_buildIn (p := p.withLimit k) (Nat.le_max_right n k) directory entries
  rw [hvn] at h
  rw [hsn] at hk ⊢
  rw [hvk, hsk]
  exact (buildIn_limited (max n k) p directory entries {}).fits h hk

/-- A run that succeeds fails under every limit that its claims go beyond. -/
theorem build_of_limit_lt
    (hk : k < (state (build (p.withLimit n) entries directory) {}).claimed.length) :
    value (build (p.withLimit k) entries directory) {} = .error (.tooManyModules k) := by
  obtain ⟨hvn, hsn⟩ := build_eq_buildIn (p := p.withLimit n) (Nat.le_max_left n k) directory entries
  obtain ⟨hvk, _⟩ := build_eq_buildIn (p := p.withLimit k) (Nat.le_max_right n k) directory entries
  rw [hvn] at h
  rw [hsn] at hk
  rw [hvk]
  exact (buildIn_limited (max n k) p directory entries {}).overflows h (Nat.zero_le k) hk

end

end Run

end BundleGraph
