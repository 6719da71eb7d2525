import BundleGraph.Proofs.Run.Demand

/-!
# Entries are claimed before imports

Whatever the order of the tasks, what imports lead to is claimed when all entries have been read.
So an identity that an entry leads to is claimed with the resolution of the first such entry, and
never with that of an import which leads there too; the claims of a build are those of its
entries and then others.  If imports are not followed, there are no others.

## Main definitions

* `Driver.EntriesFirst` — the claims of a build that goes on.
* `Driver.exists_entriesFirst` — every build has made its claims like this.
-/

namespace BundleGraph

open Relation Run

/-- A task that does not follow imports makes no requests. -/
theorem BuildPlan.Makes.log_eq_nil_of_unfollowed {p : BuildPlan} {r : Resolution}
    {log : List (ResolveRequest × Resolution)} {m : Module} (h : p.Makes r log m)
    (hf : p.followImports = false) : log = [] := by
  cases h with
  | external h => rfl
  | @loaded loaded cs h hl hi =>
    rw [importsOf, hf] at hi
    rw [List.map_eq_nil_iff.mp (Except.ok.inj hi).symm]
    rfl

namespace Driver

variable {p : BuildPlan} {directory : Path} {entries : List String} {d d' : Driver}
variable {read : List (String × Resolution)} {more : List Resolution}

/-- The claims of a build that goes on: those of the entries that were read, each identity by the
first entry that leads to it, and `more` of imports. -/
structure EntriesFirst (p : BuildPlan) (directory : Path) (entries : List String) (d : Driver)
    (read : List (String × Resolution)) (more : List Resolution) : Prop where
  entries_eq : entries = read.map Prod.fst ++ d.unread
  answered : ∀ a ∈ read, (ResolveRequest.ofEntry a.1 directory, a.2) ∈ d.run.answered
  claims : (d.run.begun ++ d.run.pending).Perm (unclaimed [] (read.map Prod.snd) ++ more)
  /-- Imports are claimed when all entries are read, and if imports are followed. -/
  more_eq_nil : d.unread ≠ [] ∨ p.followImports = false → more = []
  /-- If imports are not followed, tasks lead to nothing. -/
  done_eq_nil : p.followImports = false → ∀ cs, .ok cs ∈ d.done → cs = []

/-- What is claimed next is what no claim was made for. -/
theorem EntriesFirst.unclaimed_eq (h : EntriesFirst p directory entries d read more)
    (ht : d.run.Tracks) (cs : List Resolution) :
    unclaimed d.run.claimed cs =
      unclaimed (((unclaimed [] (read.map Prod.snd) ++ more).map Resolution.id).reverse) cs := by
  refine unclaimed_congr (fun i => ?_) cs
  rw [ht.mem_claimed_iff, (h.claims.map Resolution.id).mem_iff, List.mem_reverse]

/-- Entries stay first when one is read, since no import was claimed before. -/
theorem EntriesFirst.entry (h : EntriesFirst p directory entries d read more) (ht : d.run.Tracks)
    {e : String} {es : List String} {id : ModuleId} (hu : d.unread = e :: es)
    (hv : value (resolveEntry p directory e) d.run = .ok id) :
    ∃ r, EntriesFirst p directory entries
      { d with
        run := state (resolveEntry p directory e) d.run
        unread := es
        roots := d.roots ++ [id] } (read ++ [(e, r)]) [] := by
  obtain ⟨r, hr, rfl, hs⟩ := resolveEntry_ok hv
  have hl := resolve_links p (ResolveRequest.ofEntry e directory) d.run
  have hmore : more = [] := h.more_eq_nil (.inl (by rw [hu]; exact List.cons_ne_nil e es))
  refine ⟨r, ?_, ?_, ?_, fun _ => rfl, h.done_eq_nil⟩
  · rw [h.entries_eq, hu, List.map_append, List.append_assoc]
    rfl
  · intro a ha
    rw [hs]
    change _ ∈ (state (resolve p (ResolveRequest.ofEntry e directory)) d.run).answered
    rcases List.mem_append.mp ha with ha | ha
    · exact hl.answered.subset (h.answered a ha)
    · rw [List.mem_singleton.mp ha, answered_resolve hr]
      exact List.mem_append_right _ List.mem_cons_self
  · have hclaims := h.claims
    have hnew := h.unclaimed_eq ht [r]
    rw [hmore, List.append_nil] at hclaims hnew
    rw [hs]
    change ((state (resolve p _) d.run).begun ++ ((state (resolve p _) d.run).pending ++
      unclaimed d.run.claimed [r])).Perm _
    rw [hl.begun, hl.pending, ← List.append_assoc, hnew, List.append_nil, List.map_append,
      List.map_singleton, unclaimed_append, List.append_nil]
    exact hclaims.append_right _

/-- Every step keeps the claims of entries first. -/
theorem EntriesFirst.step (h : EntriesFirst p directory entries d read more) (ht : d.run.Tracks)
    (hs : Step p directory d d') :
    ∃ read' more', EntriesFirst p directory entries d' read' more' := by
  cases hs with
  | entry hu hv =>
    obtain ⟨r, hr⟩ := h.entry ht hu hv
    exact ⟨_, _, hr⟩
  | @task r before later hp =>
    have hb := process_begins p r (d.run.withPending (before ++ later))
    refine ⟨read, more, h.entries_eq, ?_, ?_, h.more_eq_nil, ?_⟩
    · exact fun a ha => hb.answered.subset (h.answered a ha)
    · have hperm : (d.run.begun ++ [r] ++ (before ++ later)).Perm
          (d.run.begun ++ d.run.pending) := by
        rw [hp, List.append_assoc, List.singleton_append]
        exact List.perm_middle.symm.append_left d.run.begun
      rw [hb.begun, hb.pending]
      exact hperm.trans h.claims
    · intro hf cs hcs
      rcases List.mem_append.mp hcs with hcs | hcs
      · exact h.done_eq_nil hf cs hcs
      · obtain ⟨log, m, hm, rfl, -⟩ := process_ok (List.mem_singleton.mp hcs).symm
        rw [hm.log_eq_nil_of_unfollowed hf]
        rfl
  | @handBack cs before later hu hd hv =>
    obtain ⟨new, -, hn, hw⟩ := claimAll_spec p cs d.run
    rw [hw hv] at hn
    have hcs : .ok cs ∈ d.done := by
      rw [hd]
      exact List.mem_append_right _ List.mem_cons_self
    refine ⟨read, more ++ unclaimed d.run.claimed cs, h.entries_eq, ?_, ?_, ?_, ?_⟩
    · rw [hn]
      exact h.answered
    · rw [hn]
      change (d.run.begun ++ (d.run.pending ++ unclaimed d.run.claimed cs)).Perm _
      rw [← List.append_assoc, ← List.append_assoc]
      exact h.claims.append_right _
    · intro hor
      rcases hor with hne | hf
      · exact absurd hu hne
      · rw [h.more_eq_nil (.inr hf), h.done_eq_nil hf cs hcs]
        rfl
    · intro hf cs' hcs'
      refine h.done_eq_nil hf cs' ?_
      rw [hd]
      exact List.mem_append.mpr ((List.mem_append.mp hcs').imp_right (List.mem_cons_of_mem _))

/-- Wherever a build stands, the claims of its entries were made first. -/
theorem exists_entriesFirst (h : ReflTransGen (Step p directory) (start entries) d) :
    ∃ read more, EntriesFirst p directory entries d read more := by
  induction h with
  | refl => exact ⟨[], [], rfl, nofun, .refl [], fun _ => rfl, nofun⟩
  | tail hsteps hs ih =>
    obtain ⟨read, more, h⟩ := ih
    exact h.step (tracks_of_steps hsteps) hs

/-- The entries that a build has read are resolved as the resolvers answer. -/
theorem EntriesFirst.answers (hk : p.AnswersByKey)
    (h : EntriesFirst p directory entries d read more)
    (hsteps : ReflTransGen (Step p directory) (start entries) d) :
    ∀ a ∈ read, p.Answers (ResolveRequest.ofEntry a.1 directory) a.2 := fun a ha =>
  hk.of_answered (tracks_of_steps hsteps).remembers (honest_of_steps hsteps) (h.answered a ha)

end Driver

namespace BuildPlan

variable {p : BuildPlan} {directory : Path} {entries : List String} {s : RunState}

theorem Complete.read_answers (hk : p.AnswersByKey) {read : List (String × Resolution)}
    {made : List p.Made} (h : Complete directory entries s read made) :
    ∀ a ∈ read, p.Answers (ResolveRequest.ofEntry a.1 directory) a.2 :=
  fun _ ha => h.answers hk (h.mem_answered_of_read ha)

/-- The tasks of a build that succeeded are those of its entries and then others, which there are
if imports are followed. -/
theorem Runs.complete_entriesFirst (hk : p.AnswersByKey)
    (h : p.Runs directory entries (.ok ()) s) :
    ∃ (read : List (String × Resolution)) (made : List p.Made) (more : List Resolution),
      Complete directory entries s read made ∧
      (made.map (·.resolution)).Perm (unclaimed [] (read.map Prod.snd) ++ more) ∧
      (p.followImports = false → more = []) := by
  obtain ⟨d, hsteps, hu, hp, hd, rfl⟩ := h.finished
  obtain ⟨read, made, hacc⟩ := Driver.exists_account hsteps (Driver.clean_of_done_eq_nil hd)
  obtain ⟨read', more, hfirst⟩ := Driver.exists_entriesFirst hsteps
  have hc := hacc.complete hsteps hu hp hd
  have hread : read' = read := by
    have heq := hfirst.entries_eq
    rw [hu, List.append_nil] at heq
    exact eq_of_map_fst (R := fun e r => p.Answers (ResolveRequest.ofEntry e directory) r)
      Answers.unique (heq.symm.trans hc.entries_eq) (hfirst.answers hk hsteps)
      (hc.read_answers hk)
  refine ⟨read, made, more, hc, ?_, fun hf => hfirst.more_eq_nil (.inr hf)⟩
  have hclaims := hfirst.claims
  rw [hp, List.append_nil, hacc.accounts.begun_eq, hread] at hclaims
  exact hclaims

end BuildPlan

end BundleGraph
