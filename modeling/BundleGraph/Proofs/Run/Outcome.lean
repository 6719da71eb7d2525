import BundleGraph.Build.Run
import Mathlib.Data.List.Basic

/-!
# What comes of a step of a run

A step of a run has a value and reaches a state, and it reaches a state also when its value
is an error.  Both are given for every step from which runs are put together, so that later
statements speak about values and states and do not open the steps.

## Main definitions

* `Run.value`, `Run.state` — what a step gives, and the state it reaches.
* `Run.Within` — a step moves along a relation on states, whatever its value.
* `unclaimed` — the resolutions of a list that lead to new identities, each identity once.
-/

namespace BundleGraph

namespace Run

variable {α β : Type}

/-- What a step gives. -/
def value (m : Run α) (s : RunState) : Except BuildError α :=
  match m.run s with
  | .ok a _ => .ok a
  | .error e _ => .error e

/-- The state a step reaches, which a failing step reaches too. -/
def state (m : Run α) (s : RunState) : RunState :=
  match m.run s with
  | .ok _ t => t
  | .error _ t => t

@[simp] theorem value_pure (a : α) (s : RunState) : value (pure a) s = .ok a := rfl
@[simp] theorem state_pure (a : α) (s : RunState) : state (pure a) s = s := rfl
@[simp] theorem value_throw (e : BuildError) (s : RunState) :
    value (throw e : Run α) s = .error e := rfl
@[simp] theorem state_throw (e : BuildError) (s : RunState) :
    state (throw e : Run α) s = s := rfl
@[simp] theorem value_get (s : RunState) : value (get : Run RunState) s = .ok s := rfl
@[simp] theorem state_get (s : RunState) : state (get : Run RunState) s = s := rfl
@[simp] theorem value_set (t s : RunState) : value (set t) s = .ok () := rfl
@[simp] theorem state_set (t s : RunState) : state (set t) s = t := rfl
@[simp] theorem value_modify (f : RunState → RunState) (s : RunState) :
    value (modify f) s = .ok () := rfl
@[simp] theorem state_modify (f : RunState → RunState) (s : RunState) :
    state (modify f) s = f s := rfl

theorem value_bind (m : Run α) (f : α → Run β) (s : RunState) :
    value (m >>= f) s =
      match value m s with
      | .ok a => value (f a) (state m s)
      | .error e => .error e := by
  change (match EStateM.bind m f s with | .ok a _ => _ | .error e _ => _) = _
  unfold value state EStateM.bind EStateM.run
  cases m s <;> rfl

theorem state_bind (m : Run α) (f : α → Run β) (s : RunState) :
    state (m >>= f) s =
      match value m s with
      | .ok a => state (f a) (state m s)
      | .error _ => state m s := by
  change (match EStateM.bind m f s with | .ok _ t => _ | .error _ t => _) = _
  unfold value state EStateM.bind EStateM.run
  cases m s <;> rfl

/-- A sequence gives a value when both of its steps do. -/
theorem value_bind_ok {m : Run α} {f : α → Run β} {s : RunState} {b : β}
    (h : value (m >>= f) s = .ok b) :
    ∃ a, value m s = .ok a ∧ value (f a) (state m s) = .ok b ∧
      state (m >>= f) s = state (f a) (state m s) := by
  rw [value_bind] at h
  rw [state_bind]
  cases hm : value m s with
  | ok a => rw [hm] at h; exact ⟨a, rfl, h, rfl⟩
  | error e => rw [hm] at h; cases h

theorem bind_of_ok {m : Run α} {s : RunState} {a : α} (h : value m s = .ok a) (f : α → Run β) :
    value (m >>= f) s = value (f a) (state m s) ∧
      state (m >>= f) s = state (f a) (state m s) := by
  rw [value_bind, state_bind, h]
  exact ⟨rfl, rfl⟩

theorem bind_of_error {m : Run α} {s : RunState} {e : BuildError} (h : value m s = .error e)
    (f : α → Run β) : value (m >>= f) s = .error e ∧ state (m >>= f) s = state m s := by
  rw [value_bind, state_bind, h]
  exact ⟨rfl, rfl⟩

/-! ## Moving along a relation -/

/-- The step moves along `R`, whatever its value. -/
def Within (R : RunState → RunState → Prop) (m : Run α) : Prop :=
  ∀ s, R s (state m s)

/-- What one state has the other has too. -/
def Carries (P : RunState → Prop) (s t : RunState) : Prop := P s → P t

instance (P : RunState → Prop) : IsPreorder RunState (Carries P) where
  refl _ := id
  trans _ _ _ h h' := h' ∘ h

section
variable {R : RunState → RunState → Prop} [IsPreorder RunState R]

theorem Within.pure (a : α) : Within R (pure a : Run α) := fun s => Std.Refl.refl s

/-- A sequence moves along a preorder when its steps do. -/
theorem Within.bind {m : Run α} {f : α → Run β} (hm : Within R m)
    (hf : ∀ a, Within R (f a)) : Within R (m >>= f) := by
  intro s
  rw [state_bind]
  cases value m s with
  | ok a => exact IsTrans.trans _ _ _ (hm s) (hf a (state m s))
  | error e => exact hm s

/-- To resolve the imports of a module is to resolve requests. -/
theorem resolveImports_within {p : BuildPlan} (h : ∀ q, Within R (resolve p q)) (id : ModuleId)
    (loaded : LoadedModule) (rs : List ImportRecord) :
    Within R (resolveImports p id loaded rs) := by
  induction rs with
  | nil => exact Within.pure []
  | cons r rs ih =>
    refine Within.bind (h _) fun c => Within.bind ih fun cs => Within.pure _

/-- To claim what resolutions lead to is to claim one after the other. -/
theorem claimAll_within {p : BuildPlan} (h : ∀ r, Within R (claim p r)) (rs : List Resolution) :
    Within R (claimAll p rs) := by
  induction rs with
  | nil => exact Within.pure ()
  | cons r rs ih => exact (h r).bind fun _ => ih

/-- An entry is a request and a claim. -/
theorem resolveEntry_within {p : BuildPlan} (hask : ∀ q, Within R (resolve p q))
    (hclaim : ∀ r, Within R (claim p r)) (directory : Path) (e : String) :
    Within R (resolveEntry p directory e) :=
  (hask _).bind fun r => (hclaim r).bind fun _ => Within.pure r.id

end

/-! ## Putting on record, working, walking -/

@[simp] theorem value_record (a : Act) (s : RunState) : value (record a) s = .ok () := rfl
@[simp] theorem state_record (a : Act) (s : RunState) :
    state (record a) s = { s with acts := s.acts ++ [a] } := rfl

@[simp] theorem value_perform (w : Work α) (s : RunState) : value (perform w) s = w.result := by
  simp only [perform, value_bind, value_modify, state_modify]
  cases w.result <;> rfl

@[simp] theorem state_perform (w : Work α) (s : RunState) :
    state (perform w) s = { s with notes := s.notes ++ w.notes } := by
  simp only [perform, state_bind, value_modify, state_modify]
  cases w.result <;> rfl

/-- What is known after a request got an answer. -/
def learn (answers : List (ResolveKey × Resolution)) (k : ResolveKey) :
    Except BuildError Resolution → List (ResolveKey × Resolution)
  | .ok r => answers ++ [(k, r)]
  | .error _ => answers

@[simp] theorem value_walk (p : BuildPlan) (q : ResolveRequest) (s : RunState) :
    value (walk p q) s = (p.resolve q).result := by
  simp only [walk, value_bind, value_modify, value_record, value_perform]
  cases (p.resolve q).result <;> rfl

theorem state_walk (p : BuildPlan) (q : ResolveRequest) (s : RunState) :
    state (walk p q) s =
      { s with
        resolves := s.resolves + 1
        notes := s.notes ++ (p.resolve q).notes
        acts := s.acts ++ [.walked q (p.resolve q).result]
        answers := learn s.answers q.key (p.resolve q).result } := by
  simp only [walk, state_bind, value_modify, state_modify, value_record, state_record,
    value_perform, state_perform]
  cases (p.resolve q).result <;> rfl

@[simp] theorem value_load (p : BuildPlan) (q : LoadRequest) (s : RunState) :
    value (load p q) s = (p.load q).result := by
  simp [load, value_bind]

theorem state_load (p : BuildPlan) (q : LoadRequest) (s : RunState) :
    state (load p q) s =
      { s with
        loads := s.loads + 1
        notes := s.notes ++ (p.load q).notes
        acts := s.acts ++ [.loaded q (p.load q).result] } := by
  simp [load, state_bind]

/-! ## Resolving -/

/-- The state in which one more request is counted. -/
def ask (s : RunState) : RunState :=
  { s with requests := s.requests + 1 }

theorem value_resolve (p : BuildPlan) (q : ResolveRequest) (s : RunState) :
    value (resolve p q) s =
      match s.answer? q.key with
      | some r => .ok r
      | none => (p.resolve q).result := by
  have h : (ask s).answer? q.key = s.answer? q.key := rfl
  simp only [resolve, value_bind, value_modify, state_modify, value_get, state_get]
  rw [← ask, h]
  cases s.answer? q.key with
  | some r => rfl
  | none => exact value_walk p q (ask s)

theorem state_resolve_known {p : BuildPlan} {q : ResolveRequest} {s : RunState}
    {r : Resolution} (h : s.answer? q.key = some r) :
    state (resolve p q) s = { ask s with acts := s.acts ++ [.recalled q r] } := by
  have h' : (ask s).answer? q.key = some r := h
  simp only [resolve, state_bind, value_modify, state_modify, value_get, state_get]
  rw [← ask, h']
  rfl

theorem state_resolve_new {p : BuildPlan} {q : ResolveRequest} {s : RunState}
    (h : s.answer? q.key = none) : state (resolve p q) s = state (walk p q) (ask s) := by
  have h' : (ask s).answer? q.key = none := h
  simp only [resolve, state_bind, value_modify, state_modify, value_get, state_get]
  rw [← ask, h']

/-! ## Claiming -/

/-- The resolutions that lead to identities outside `seen`, each identity once, with its
first resolution. -/
def unclaimed (seen : List ModuleId) : List Resolution → List Resolution
  | [] => []
  | r :: rs => if r.id ∈ seen then unclaimed seen rs else r :: unclaimed (r.id :: seen) rs

/-- The state in which resolutions are claimed. -/
def withClaims (s : RunState) (rs : List Resolution) : RunState :=
  { s with
    claimed := (rs.map Resolution.id).reverse ++ s.claimed
    pending := s.pending ++ rs }

@[simp] theorem withClaims_nil (s : RunState) : withClaims s [] = s := by
  simp [withClaims]

theorem withClaims_withClaims (s : RunState) (rs ts : List Resolution) :
    withClaims (withClaims s rs) ts = withClaims s (rs ++ ts) := by
  simp [withClaims]

/-- A claimed identity is not claimed again. -/
theorem claim_claimed (p : BuildPlan) {r : Resolution} {s : RunState} (h : r.id ∈ s.claimed) :
    value (claim p r) s = .ok () ∧ state (claim p r) s = s := by
  simp [claim, value_bind, state_bind, h]

/-- No identity is claimed beyond the limit. -/
theorem claim_full {p : BuildPlan} {r : Resolution} {s : RunState} (h : r.id ∉ s.claimed)
    (hf : p.maxModules ≤ s.claimed.length) :
    value (claim p r) s = .error (.tooManyModules p.maxModules) ∧ state (claim p r) s = s := by
  simp [claim, value_bind, state_bind, h, hf]

theorem claim_new {p : BuildPlan} {r : Resolution} {s : RunState} (h : r.id ∉ s.claimed)
    (hf : s.claimed.length < p.maxModules) :
    value (claim p r) s = .ok () ∧ state (claim p r) s = withClaims s [r] := by
  have hf' : ¬ p.maxModules ≤ s.claimed.length := by omega
  simp [claim, value_bind, state_bind, h, hf', withClaims]

theorem mem_unclaimed {seen : List ModuleId} {rs : List Resolution} {r : Resolution}
    (h : r ∈ unclaimed seen rs) : r ∈ rs ∧ r.id ∉ seen := by
  induction rs generalizing seen with
  | nil => simp [unclaimed] at h
  | cons a rs ih =>
    simp only [unclaimed] at h
    split at h
    · exact ⟨List.mem_cons_of_mem a (ih h).1, (ih h).2⟩
    · rename_i ha
      rcases List.mem_cons.mp h with rfl | h
      · exact ⟨List.mem_cons_self, ha⟩
      · obtain ⟨hr, hs⟩ := ih h
        exact ⟨List.mem_cons_of_mem a hr, fun hc => hs (List.mem_cons_of_mem _ hc)⟩

theorem nodup_unclaimed (seen : List ModuleId) (rs : List Resolution) :
    ((unclaimed seen rs).map Resolution.id).Nodup := by
  induction rs generalizing seen with
  | nil => simp [unclaimed]
  | cons a rs ih =>
    simp only [unclaimed]
    split
    · exact ih seen
    · rw [List.map_cons, List.nodup_cons]
      refine ⟨?_, ih _⟩
      intro h
      obtain ⟨r, hr, hi⟩ := List.mem_map.mp h
      exact (mem_unclaimed hr).2 (by simp [hi])

/-- Every resolution leads to an identity that was seen or is among the unclaimed ones. -/
theorem exists_unclaimed {seen : List ModuleId} {rs : List Resolution} {r : Resolution}
    (h : r ∈ rs) : r.id ∈ seen ∨ r.id ∈ (unclaimed seen rs).map Resolution.id := by
  induction rs generalizing seen with
  | nil => simp at h
  | cons a rs ih =>
    simp only [unclaimed]
    split
    · rename_i ha
      rcases List.mem_cons.mp h with rfl | h
      · exact .inl ha
      · exact ih h
    · rcases List.mem_cons.mp h with rfl | h
      · exact .inr (by simp)
      · rcases @ih (a.id :: seen) h with hs | hs
        · rcases List.mem_cons.mp hs with hs | hs
          · exact .inr (by simp [hs])
          · exact .inl hs
        · exact .inr (List.mem_cons_of_mem _ hs)

theorem unclaimed_congr {seen seen' : List ModuleId} (h : ∀ i, i ∈ seen ↔ i ∈ seen')
    (rs : List Resolution) : unclaimed seen rs = unclaimed seen' rs := by
  induction rs generalizing seen seen' with
  | nil => rfl
  | cons a rs ih =>
    have hc : ∀ i, i ∈ a.id :: seen ↔ i ∈ a.id :: seen' := by
      intro i
      simp only [List.mem_cons, h i]
    simp only [unclaimed, h, ih h, ih hc]

theorem unclaimed_append (seen : List ModuleId) (rs ts : List Resolution) :
    unclaimed seen (rs ++ ts) =
      unclaimed seen rs ++
        unclaimed (((unclaimed seen rs).map Resolution.id).reverse ++ seen) ts := by
  induction rs generalizing seen with
  | nil => simp [unclaimed]
  | cons a rs ih =>
    simp only [List.cons_append, unclaimed]
    split
    · exact ih seen
    · rw [ih]
      simp

/-- A claim adds the identity if it is new, and it fails only when it would have to. -/
theorem claim_spec (p : BuildPlan) (r : Resolution) (s : RunState) :
    ∃ new, new <+: unclaimed s.claimed [r] ∧ state (claim p r) s = withClaims s new ∧
      (value (claim p r) s = .ok () → new = unclaimed s.claimed [r]) := by
  by_cases hr : r.id ∈ s.claimed
  · obtain ⟨hv, hs⟩ := claim_claimed p hr
    exact ⟨[], List.nil_prefix, by simp [hs], fun _ => by simp [unclaimed, hr]⟩
  · by_cases hf : p.maxModules ≤ s.claimed.length
    · obtain ⟨hv, hs⟩ := claim_full hr hf
      refine ⟨[], List.nil_prefix, by simp [hs], ?_⟩
      intro h
      rw [hv] at h
      cases h
    · obtain ⟨hv, hs⟩ := claim_new hr (by omega : s.claimed.length < p.maxModules)
      exact ⟨[r], by simp [unclaimed, hr], hs, fun _ => by simp [unclaimed, hr]⟩

/-- What new claims keep, a claim keeps. -/
theorem claim_within_of_withClaims {p : BuildPlan} {P : RunState → Prop}
    (h : ∀ s rs, P s → P (withClaims s rs)) (r : Resolution) :
    Within (Carries P) (claim p r) := by
  intro s hs
  obtain ⟨new, -, hn, -⟩ := claim_spec p r s
  rw [hn]
  exact h s new hs

/-- Claims are made in order up to the limit: of the resolutions that lead to new identities,
a first part is claimed, and all of them when no claim fails. -/
theorem claimAll_spec (p : BuildPlan) (rs : List Resolution) (s : RunState) :
    ∃ new, new <+: unclaimed s.claimed rs ∧ state (claimAll p rs) s = withClaims s new ∧
      (value (claimAll p rs) s = .ok () → new = unclaimed s.claimed rs) := by
  induction rs generalizing s with
  | nil => exact ⟨[], by simp [unclaimed], by simp [claimAll], fun _ => rfl⟩
  | cons a rs ih =>
    obtain ⟨hd, hp, hs, hw⟩ := claim_spec p a s
    have hsplit := unclaimed_append s.claimed [a] rs
    rw [List.singleton_append] at hsplit
    simp only [claimAll, value_bind, state_bind]
    cases hv : value (claim p a) s with
    | error e =>
      refine ⟨hd, ?_, hs, fun h => nomatch h⟩
      rw [hsplit]
      exact hp.trans (List.prefix_append _ _)
    | ok u =>
      obtain ⟨new, hp', hn, hw'⟩ := ih (state (claim p a) s)
      rw [hs, hw hv] at hp' hn hw'
      rw [hs, hw hv, hsplit]
      refine ⟨unclaimed s.claimed [a] ++ new, ?_, ?_, ?_⟩
      · exact (List.prefix_append_right_inj _).mpr hp'
      · exact hn.trans (withClaims_withClaims _ _ _)
      · intro h
        rw [hw' h]
        rfl

/-- Where there is room for all new identities, no claim fails. -/
theorem claimAll_of_room {p : BuildPlan} {rs : List Resolution} {s : RunState}
    (h : s.claimed.length + (unclaimed s.claimed rs).length ≤ p.maxModules) :
    value (claimAll p rs) s = .ok () := by
  induction rs generalizing s with
  | nil => rfl
  | cons a rs ih =>
    simp only [claimAll, value_bind]
    by_cases ha : a.id ∈ s.claimed
    · obtain ⟨hv, hs⟩ := claim_claimed p ha
      simp only [hv, hs]
      exact ih (by simpa [unclaimed, ha] using h)
    · simp only [unclaimed, ha, if_false, List.length_cons] at h
      obtain ⟨hv, hs⟩ := claim_new ha (by omega : s.claimed.length < p.maxModules)
      simp only [hv, hs]
      apply ih
      simp only [withClaims, List.map_cons, List.map_nil, List.reverse_cons, List.reverse_nil,
        List.nil_append, List.cons_append, List.length_cons]
      omega

/-! ## The graph -/

theorem value_addModule (m : Module) (s : RunState) :
    value (addModule m) s = ((s.graph.add m).mapError .graph).map fun _ => () := by
  simp only [addModule, value_bind, value_get, state_get]
  cases s.graph.add m <;> rfl

theorem state_addModule (m : Module) (s : RunState) :
    state (addModule m) s = { s with graph := (s.graph.add m).toOption.getD s.graph } := by
  simp only [addModule, state_bind, value_get, state_get]
  cases s.graph.add m <;> rfl

theorem value_declareEntries (ids : List ModuleId) (s : RunState) :
    value (declareEntries ids) s = (s.graph.setEntryPoints ids).2.mapError .graph := by
  simp only [declareEntries, value_bind, value_get, state_get]
  cases h : s.graph.setEntryPoints ids with
  | mk g x => cases x <;> rfl

theorem state_declareEntries (ids : List ModuleId) (s : RunState) :
    state (declareEntries ids) s = { s with graph := (s.graph.setEntryPoints ids).1 } := by
  simp only [declareEntries, state_bind, value_get, state_get]
  cases h : s.graph.setEntryPoints ids with
  | mk g x => cases x <;> rfl

end Run

end BundleGraph
