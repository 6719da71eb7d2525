import BundleGraph.Proofs.Run.Account
import Mathlib.Data.List.Perm.Subperm

/-!
# What a build needs

When requests of one key fare alike, what a build needs can be said without a run: the entries
lead to resolutions, and the task of a resolution leads to others.  A build is feasible when
all that it needs can be had within its limit.  Whether a build succeeds is then no question of
the order of its tasks: in every order, it succeeds exactly when it is feasible.

## Main definitions

* `BuildPlan.AnswersByKey`, `BuildPlan.AnswersById` — how far requests fare alike.
* `BuildPlan.Needs` — what a build needs; `BuildPlan.NeedsById` says that of it only.
* `BuildPlan.Feasible` — all of it can be had.
* `BuildPlan.Complete.feasible`, `Driver.Ends.ok_of_feasible` — success means to be feasible.
-/

namespace BundleGraph

open Relation Run

namespace BuildPlan

/-- A request is answered with a resolution. -/
def Answers (p : BuildPlan) (q : ResolveRequest) (r : Resolution) : Prop :=
  (p.resolve q).result = .ok r

/-- Requests of one key all fail or all get one answer. -/
def AnswersByKey (p : BuildPlan) : Prop :=
  ∀ q q', q.key = q'.key →
    ((∃ e, (p.resolve q).result = .error e) ∧ ∃ e, (p.resolve q').result = .error e) ∨
      ∃ r, p.Answers q r ∧ p.Answers q' r

/-- Requests that lead to one identity agree on the flag and on the data that go with it. -/
def AnswersById (p : BuildPlan) : Prop :=
  ∀ q q' r r', p.Answers q r → p.Answers q' r' → r.id = r'.id →
    r.external = r'.external ∧ r.pluginData = r'.pluginData

/-- The task of `r` makes `m` when the resolvers themselves answer its requests. -/
def Yields (p : BuildPlan) (r : Resolution) (log : List (ResolveRequest × Resolution))
    (m : Module) : Prop :=
  p.Makes r log m ∧ ∀ a ∈ log, p.Answers a.1 a.2

/-- A build needs the resolution. -/
inductive Needs (p : BuildPlan) (directory : Path) (entries : List String) :
    Resolution → Prop where
  | entry {e : String} {r : Resolution} (he : e ∈ entries)
      (h : p.Answers (ResolveRequest.ofEntry e directory) r) : Needs p directory entries r
  | child {r : Resolution} {log : List (ResolveRequest × Resolution)} {m : Module}
      {a : ResolveRequest × Resolution} (hr : Needs p directory entries r)
      (hm : p.Yields r log m) (ha : a ∈ log) : Needs p directory entries a.2

/-- What a build needs under one identity agrees on the flag and on the data that go with it. -/
def NeedsById (p : BuildPlan) (directory : Path) (entries : List String) : Prop :=
  ∀ r r', p.Needs directory entries r → p.Needs directory entries r' → r.id = r'.id →
    r.external = r'.external ∧ r.pluginData = r'.pluginData

/-- All that a build needs can be had. -/
structure Feasible (p : BuildPlan) (directory : Path) (entries : List String) : Prop where
  answers : ∀ e ∈ entries, ∃ r, p.Answers (ResolveRequest.ofEntry e directory) r
  tasks : ∀ r, p.Needs directory entries r → ∃ log m, p.Yields r log m
  /-- The identities fit into the limit. -/
  room : ∃ ids : List ModuleId, ids.length ≤ p.maxModules ∧
    ∀ r, p.Needs directory entries r → r.id ∈ ids

variable {p : BuildPlan} {directory : Path} {entries : List String}

/-- Requests of one key fare alike when the answer to one is the answer to the other. -/
theorem answersByKey_of_answers
    (h : ∀ q q' r, q.key = q'.key → p.Answers q r → p.Answers q' r) : p.AnswersByKey := by
  intro q q' hkey
  cases hq : (p.resolve q).result with
  | ok r => exact .inr ⟨r, hq, h q q' r hkey hq⟩
  | error e =>
    cases hq' : (p.resolve q').result with
    | ok r => exact .inr ⟨r, h q' q r hkey.symm hq', hq'⟩
    | error e' => exact .inl ⟨⟨e, rfl⟩, ⟨e', rfl⟩⟩

theorem answersByKey_of_congr
    (h : ∀ q q', q.key = q'.key → (p.resolve q).result = (p.resolve q').result) :
    p.AnswersByKey :=
  answersByKey_of_answers fun q q' _ hkey hr => (h q q' hkey).symm.trans hr

theorem AnswersByKey.answers (hk : p.AnswersByKey) {q q' : ResolveRequest} {r : Resolution}
    (h : q.key = q'.key) (hr : p.Answers q r) : p.Answers q' r := by
  rcases hk q q' h with ⟨⟨e, he⟩, _⟩ | ⟨r', hr', hr''⟩
  · rw [Answers, he] at hr
    cases hr
  · rw [Answers, hr'] at hr
    cases hr
    exact hr''

theorem Answers.unique {q : ResolveRequest} {r r' : Resolution} (h : p.Answers q r)
    (h' : p.Answers q r') : r = r' := by
  rw [Answers, h] at h'
  exact Except.ok.inj h'

/-- What a run answered, from before or not, is what the resolvers answer. -/
theorem AnswersByKey.of_answered (hk : p.AnswersByKey) {s : RunState} (hs : s.Remembers)
    (hh : s.Honest p) {a : ResolveRequest × Resolution} (ha : a ∈ s.answered) :
    p.Answers a.1 a.2 := by
  obtain ⟨q, hq, hr⟩ := hs.exists_walk hh ha
  exact hk.answers hq hr

/-- What is needed is the answer to a request. -/
theorem Needs.exists_answer {r : Resolution} (h : p.Needs directory entries r) :
    ∃ q, p.Answers q r := by
  cases h with
  | entry he hr => exact ⟨_, hr⟩
  | child hr hm ha => exact ⟨_, hm.2 _ ha⟩

/-- What agrees among all answers agrees among those that are needed. -/
theorem AnswersById.needsById (hi : p.AnswersById) : p.NeedsById directory entries := by
  intro r r' hr hr' hid
  obtain ⟨q, hq⟩ := hr.exists_answer
  obtain ⟨q', hq'⟩ := hr'.exists_answer
  exact hi q q' r r' hq hq' hid

/-- Pairs with the same first parts are the same when the first parts determine the second. -/
theorem eq_of_map_fst {α β : Type} {R : α → β → Prop} (hR : ∀ {a b b'}, R a b → R a b' → b = b')
    {l l' : List (α × β)} (h : l.map Prod.fst = l'.map Prod.fst) (hl : ∀ c ∈ l, R c.1 c.2)
    (hl' : ∀ c ∈ l', R c.1 c.2) : l = l' := by
  induction l generalizing l' with
  | nil => exact (List.map_eq_nil_iff.mp h.symm).symm
  | cons c l ih =>
    cases l' with
    | nil => cases h
    | cons c' l' =>
      obtain ⟨hc, h⟩ := List.cons.inj h
      have hc' : c = c' := by
        refine Prod.ext hc (hR (hl c List.mem_cons_self) ?_)
        rw [hc]
        exact hl' c' List.mem_cons_self
      rw [hc', ih h (fun c hc => hl c (List.mem_cons_of_mem _ hc))
        fun c hc => hl' c (List.mem_cons_of_mem _ hc)]

/-- The task of an identity makes one module, whatever led to the identity. -/
theorem Yields.unique {r r' : Resolution} {log log' : List (ResolveRequest × Resolution)}
    {m m' : Module} (hi : r.id = r'.id) (he : r.external = r'.external)
    (hd : r.pluginData = r'.pluginData) (h : p.Yields r log m) (h' : p.Yields r' log' m') :
    log = log' ∧ m = m' := by
  obtain ⟨h, ha⟩ := h
  obtain ⟨h', ha'⟩ := h'
  cases h with
  | external hx =>
    cases h' with
    | external hx' => rw [hi, hd]; exact ⟨rfl, rfl⟩
    | loaded hx' _ _ => rw [← he, hx] at hx'; cases hx'
  | @loaded loaded cs hx hl hs =>
    cases h' with
    | external hx' => rw [← he, hx] at hx'; cases hx'
    | @loaded loaded' cs' hx' hl' hs' =>
      rw [hi, hd, hl'] at hl
      cases hl
      rw [hi, hs'] at hs
      have hcs : cs = cs' := by
        refine eq_of_map_fst (R := fun c r => p.Answers (requestOf r'.id loaded c) r)
          Answers.unique (Except.ok.inj hs).symm ?_ ?_
        · intro c hc
          rw [← hi]
          exact ha _ (List.mem_map_of_mem hc)
        · intro c hc
          exact ha' _ (List.mem_map_of_mem hc)
      rw [hcs, moduleOf, moduleOf, hi, hd]
      exact ⟨rfl, rfl⟩

/-- What a task makes depends on the identity, the flag and the data of its resolution. -/
theorem Yields.congr {r r' : Resolution} {log : List (ResolveRequest × Resolution)}
    {m : Module} (hi : r.id = r'.id) (he : r.external = r'.external)
    (hd : r.pluginData = r'.pluginData) (h : p.Yields r log m) : p.Yields r' log m := by
  obtain ⟨h, ha⟩ := h
  refine ⟨?_, ha⟩
  cases h with
  | external hx =>
    rw [hi, hd]
    exact .external (he.symm.trans hx)
  | @loaded loaded cs hx hl hs =>
    have hm : moduleOf r loaded cs = moduleOf r' loaded cs := by
      rw [moduleOf, moduleOf, hi, hd]
    rw [hm]
    rw [hi, hd] at hl
    rw [hi] at hs ⊢
    exact .loaded (he.symm.trans hx) hl hs

section
variable {entries₁ entries₂ : List String}

/-- What some entries need, more entries need. -/
theorem Needs.mono (hE : entries₁ ⊆ entries₂) {r : Resolution}
    (h : p.Needs directory entries₁ r) : p.Needs directory entries₂ r := by
  induction h with
  | entry he hr => exact .entry (hE he) hr
  | child _ hm ha ih => exact .child ih hm ha

/-- What agrees among more entries agrees among fewer. -/
theorem NeedsById.mono (hE : entries₁ ⊆ entries₂) (h : p.NeedsById directory entries₂) :
    p.NeedsById directory entries₁ :=
  fun r r' hr hr' => h r r' (hr.mono hE) (hr'.mono hE)

/-- Nothing is needed by two lists of entries that neither needs. -/
theorem needs_append_iff {r : Resolution} :
    p.Needs directory (entries₁ ++ entries₂) r ↔
      p.Needs directory entries₁ r ∨ p.Needs directory entries₂ r := by
  constructor
  · intro h
    induction h with
    | entry he hr =>
      exact (List.mem_append.mp he).imp (fun he => .entry he hr) fun he => .entry he hr
    | child _ hm ha ih => exact ih.imp (fun h => .child h hm ha) fun h => .child h hm ha
  · rintro (h | h)
    · exact h.mono (List.subset_append_left _ _)
    · exact h.mono (List.subset_append_right _ _)

/-- When all that some entries need can be had, so can what fewer entries need. -/
theorem Feasible.mono (hE : entries₁ ⊆ entries₂) (h : p.Feasible directory entries₂) :
    p.Feasible directory entries₁ where
  answers := fun e he => h.answers e (hE he)
  tasks := fun r hr => h.tasks r (hr.mono hE)
  room := by
    obtain ⟨ids, hlen, hids⟩ := h.room
    exact ⟨ids, hlen, fun r hr => hids r (hr.mono hE)⟩

/-- When all that two lists of entries need can be had, it can be had together if there is room
for it. -/
theorem Feasible.append (h₁ : p.Feasible directory entries₁) (h₂ : p.Feasible directory entries₂)
    {ids : List ModuleId} (hlen : ids.length ≤ p.maxModules)
    (hids : ∀ r, p.Needs directory entries₁ r ∨ p.Needs directory entries₂ r → r.id ∈ ids) :
    p.Feasible directory (entries₁ ++ entries₂) where
  answers := fun e he => (List.mem_append.mp he).elim (h₁.answers e) (h₂.answers e)
  tasks := fun r hr => (needs_append_iff.mp hr).elim (h₁.tasks r) (h₂.tasks r)
  room := ⟨ids, hlen, fun r hr => hids r (needs_append_iff.mp hr)⟩

end

/-- What was come to from the entries is needed. -/
theorem needs_of_led {read : List (String × Resolution)} {made : List p.Made}
    (hread : ∀ a ∈ read, a.1 ∈ entries ∧ p.Answers (ResolveRequest.ofEntry a.1 directory) a.2)
    (hmade : ∀ t ∈ made, ∀ a ∈ t.log, p.Answers a.1 a.2) {r : Resolution}
    (h : Led read made r) : p.Needs directory entries r := by
  induction h with
  | entry ha => exact .entry (hread _ ha).1 (hread _ ha).2
  | @child t a ht _ ha ih => exact .child ih ⟨t.makes, hmade t ht⟩ ha

/-! ## A build that succeeded was feasible -/

namespace Complete

variable {s : RunState} {read : List (String × Resolution)} {made : List p.Made}

theorem answers (hk : p.AnswersByKey) (h : Complete directory entries s read made)
    {a : ResolveRequest × Resolution} (ha : a ∈ s.answered) : p.Answers a.1 a.2 :=
  hk.of_answered h.remembers h.honest ha

theorem yields (hk : p.AnswersByKey) (h : Complete directory entries s read made) {t : p.Made}
    (ht : t ∈ made) : p.Yields t.resolution t.log t.node :=
  ⟨t.makes, fun _ ha => h.answers hk (h.mem_answered_of_log ht ha)⟩

theorem exists_answer (h : Complete directory entries s read made) {t : p.Made}
    (ht : t ∈ made) : ∃ q, (q, t.resolution) ∈ s.answered := by
  obtain ⟨⟨q, r⟩, ha, hr⟩ := List.mem_map.mp (h.given t ht)
  rw [← hr]
  exact ⟨q, ha⟩

/-- Only what is needed was asked for. -/
theorem needs_of_answered (hk : p.AnswersByKey) (h : Complete directory entries s read made)
    {a : ResolveRequest × Resolution} (ha : a ∈ s.answered) : p.Needs directory entries a.2 := by
  refine needs_of_led ?_ (fun _ ht => (h.yields hk ht).2) (h.led _ (List.mem_map_of_mem ha))
  intro a ha
  rw [h.entries_eq]
  exact ⟨List.mem_map_of_mem ha, h.answers hk (h.mem_answered_of_read ha)⟩

/-- Only what is needed was made. -/
theorem needs (hk : p.AnswersByKey) (h : Complete directory entries s read made) {t : p.Made}
    (ht : t ∈ made) : p.Needs directory entries t.resolution := by
  obtain ⟨q, hq⟩ := h.exists_answer ht
  exact h.needs_of_answered hk hq

/-- The module of an answer was made for a resolution that is as good as the answer. -/
theorem exists_made_of_answered (hk : p.AnswersByKey) (hi : p.NeedsById directory entries)
    (h : Complete directory entries s read made) {q : ResolveRequest} {r : Resolution}
    (ha : (q, r) ∈ s.answered) :
    ∃ t ∈ made, t.resolution.id = r.id ∧ t.resolution.external = r.external ∧
      t.resolution.pluginData = r.pluginData := by
  obtain ⟨t, ht, hid⟩ := List.mem_map.mp (h.covered r (List.mem_map_of_mem ha))
  rw [t.makes.id_eq] at hid
  exact ⟨t, ht, hid, hi _ r (h.needs hk ht) (h.needs_of_answered hk ha) hid⟩

/-- All that is needed was made. -/
theorem exists_made (hk : p.AnswersByKey) (hi : p.NeedsById directory entries)
    (h : Complete directory entries s read made) {r : Resolution}
    (hr : p.Needs directory entries r) :
    ∃ t ∈ made, t.resolution.id = r.id ∧ t.resolution.external = r.external ∧
      t.resolution.pluginData = r.pluginData := by
  induction hr with
  | @entry e r he hr =>
    rw [h.entries_eq] at he
    obtain ⟨a, ha, rfl⟩ := List.mem_map.mp he
    have hans := h.mem_answered_of_read ha
    rw [(h.answers hk hans).unique hr] at hans
    exact h.exists_made_of_answered hk hi hans
  | @child r log m a _ hm ha ih =>
    obtain ⟨t, ht, hid, hext, hdata⟩ := ih
    obtain ⟨hlog, -⟩ := Yields.unique hid hext hdata (h.yields hk ht) hm
    rw [← hlog] at ha
    exact h.exists_made_of_answered hk hi (h.mem_answered_of_log ht ha)

/-- What a build that succeeded needs can be had, when it agrees under one identity. -/
theorem feasible_of_needsById (hk : p.AnswersByKey) (hi : p.NeedsById directory entries)
    (h : Complete directory entries s read made) : p.Feasible directory entries where
  answers := by
    intro e he
    rw [h.entries_eq] at he
    obtain ⟨a, ha, rfl⟩ := List.mem_map.mp he
    exact ⟨a.2, h.answers hk (h.mem_answered_of_read ha)⟩
  tasks := by
    intro r hr
    obtain ⟨t, ht, hid, hext, hdata⟩ := h.exists_made hk hi hr
    exact ⟨t.log, t.node, (h.yields hk ht).congr hid hext hdata⟩
  room := by
    refine ⟨made.map (·.node.id), by rw [List.length_map]; exact h.length_le, ?_⟩
    intro r hr
    obtain ⟨t, ht, hid, -⟩ := h.exists_made hk hi hr
    rw [← hid, ← t.makes.id_eq]
    exact List.mem_map_of_mem ht

theorem feasible (hk : p.AnswersByKey) (hi : p.AnswersById)
    (h : Complete directory entries s read made) : p.Feasible directory entries :=
  h.feasible_of_needsById hk hi.needsById

end Complete

end BuildPlan

/-! ## A feasible build succeeds -/

namespace Run

variable {p : BuildPlan} {s : RunState}

/-- A request that the resolvers answer is answered, from before or by them. -/
theorem exists_value_resolve {q : ResolveRequest} (h : ∃ r, p.Answers q r) (s : RunState) :
    ∃ r, value (resolve p q) s = .ok r := by
  rw [value_resolve]
  cases s.answer? q.key with
  | some r => exact ⟨r, rfl⟩
  | none => exact h

/-- What a request gets from before or from the resolvers is what the resolvers answer. -/
theorem answers_of_value_resolve (hk : p.AnswersByKey) (ht : s.Tracks) (hh : s.Honest p)
    {q : ResolveRequest} {r : Resolution} (hr : value (resolve p q) s = .ok r) :
    p.Answers q r := by
  have hl := resolve_links p q s
  refine hk.of_answered (a := (q, r)) (hl.remembers ht.remembers) (resolve_honest p _ _ hh) ?_
  rw [answered_resolve hr]
  exact List.mem_append_right _ List.mem_cons_self

/-- An entry is read when it is resolved and there is room to claim what it leads to. -/
theorem exists_value_resolveEntry {directory : Path} {e : String} {r : Resolution}
    (hr : value (resolve p (ResolveRequest.ofEntry e directory)) s = .ok r)
    (hc : value (claimAll p [r]) (state (resolve p (ResolveRequest.ofEntry e directory)) s) =
      .ok ()) : ∃ id, value (resolveEntry p directory e) s = .ok id := by
  obtain ⟨_, hc, -⟩ := value_bind_ok hc
  exact ⟨r.id, by rw [resolveEntry, (bind_of_ok hr _).1, (bind_of_ok hc _).1]; rfl⟩

theorem exists_value_resolveImports {id : ModuleId} {loaded : LoadedModule}
    {rs : List ImportRecord} (h : ∀ r ∈ rs, ∃ a, p.Answers (requestOf id loaded r) a)
    (s : RunState) : ∃ cs, value (resolveImports p id loaded rs) s = .ok cs := by
  induction rs generalizing s with
  | nil => exact ⟨[], rfl⟩
  | cons r rs ih =>
    obtain ⟨c, hc⟩ := exists_value_resolve (h r List.mem_cons_self) s
    obtain ⟨cs, hcs⟩ := ih (fun r hr => h r (List.mem_cons_of_mem _ hr))
      (state (resolve p (requestOf id loaded r)) s)
    refine ⟨(r, c) :: cs, ?_⟩
    rw [resolveImports, (bind_of_ok hc _).1, (bind_of_ok hcs _).1]
    rfl

/-- What was loaded is linked when the resolvers answer and the identity is free. -/
theorem exists_value_linkLoaded {r : Resolution} {loaded : LoadedModule}
    {cs : List (ImportRecord × Resolution)}
    (hi : importsOf p r.id loaded = .ok (cs.map Prod.fst))
    (ha : ∀ c ∈ cs, p.Answers (requestOf r.id loaded c.1) c.2)
    (hn : r.id ∉ s.graph.nodes.map Module.id) : ∃ cs, value (linkLoaded p r loaded) s = .ok cs := by
  have hrs : value (perform (Work.ofExcept (importsOf p r.id loaded))) s = .ok (cs.map Prod.fst) :=
    (value_perform _ _).trans hi
  have hans : ∀ i ∈ cs.map Prod.fst, ∃ a, p.Answers (requestOf r.id loaded i) a := by
    intro i hi
    obtain ⟨c, hc, rfl⟩ := List.mem_map.mp hi
    exact ⟨c.2, ha c hc⟩
  obtain ⟨cs', hcs⟩ := exists_value_resolveImports hans
    (state (perform (Work.ofExcept (importsOf p r.id loaded))) s)
  have htell := value_perform (Work.tell (.moduleProcessed r.id cs'.length))
    (state (resolveImports p r.id loaded (cs.map Prod.fst))
      (state (perform (Work.ofExcept (importsOf p r.id loaded))) s))
  rw [linkLoaded, (bind_of_ok hrs _).1, (bind_of_ok hcs _).1, (bind_of_ok htell _).1]
  have hg : (state (resolveImports p r.id loaded (cs.map Prod.fst)) _).graph = _ :=
    resolveImports_within (resolve_sameGraph p) r.id loaded _
      (state (perform (Work.ofExcept (importsOf p r.id loaded))) s)
  rw [(bind_of_ok (addModule_new rfl ?_) _).1]
  · exact ⟨_, rfl⟩
  · rw [graph_perform, hg, graph_perform]
    exact hn

/-- A task that the resolvers answer succeeds unless its identity is taken. -/
theorem exists_value_process {r : Resolution} {log : List (ResolveRequest × Resolution)}
    {m : Module} (h : p.Yields r log m) (hn : r.id ∉ s.graph.nodes.map Module.id) :
    ∃ cs, value (process p r) s = .ok cs := by
  obtain ⟨h, ha⟩ := h
  rw [(process_eq p r s).1]
  cases h with
  | external he =>
    have htell := value_perform (Work.tell (.externalModule r.id)) (withBegin s r)
    rw [if_pos he, processExternal, (bind_of_ok htell _).1, (bind_of_ok (addModule_new rfl ?_) _).1]
    · exact ⟨[], rfl⟩
    · rw [graph_perform]
      exact hn
  | loaded he hl hi =>
    have hload := (value_load p ⟨r.id, r.pluginData⟩ (withBegin s r)).trans hl
    rw [if_neg (Bool.eq_false_iff.mp he), processLoaded, (bind_of_ok hload _).1]
    refine exists_value_linkLoaded hi (fun c hc => ha _ (List.mem_map_of_mem hc)) ?_
    rw [graph_load]
    exact hn

/-- Claims are made as long as there is room for what may be claimed. -/
theorem claimAll_of_subset {ids : List ModuleId} (hl : ids.length ≤ p.maxModules)
    (ht : s.Tracks) (hs : s.claimed ⊆ ids) {rs : List Resolution}
    (hr : ∀ r ∈ rs, r.id ∈ ids) : value (claimAll p rs) s = .ok () := by
  have hn : (((unclaimed s.claimed rs).map Resolution.id).reverse ++ s.claimed).Nodup :=
    (ht.withClaims List.prefix_rfl).nodup
  have hsub : ((unclaimed s.claimed rs).map Resolution.id).reverse ++ s.claimed ⊆ ids := by
    intro i hi
    rcases List.mem_append.mp hi with hi | hi
    · obtain ⟨r, hu, rfl⟩ := List.mem_map.mp (List.mem_reverse.mp hi)
      exact hr r (mem_unclaimed hu).1
    · exact hs hi
  have hle := (List.Nodup.subperm hn hsub).length_le
  apply claimAll_of_room
  rw [List.length_append, List.length_reverse, List.length_map] at hle
  omega

end Run

namespace Driver

variable {p : BuildPlan} {directory : Path} {entries : List String} {d d' : Driver}
variable {read : List (String × Resolution)} {made : List p.Made}

section
variable (hk : p.AnswersByKey) (hsteps : ReflTransGen (Step p directory) (start entries) d)
include hk hsteps

/-- What was come to is needed. -/
theorem Account.needs (h : Account directory entries d read made) {r : Resolution}
    (hr : r ∈ d.run.answered.map Prod.snd) : p.Needs directory entries r := by
  have ht := tracks_of_steps hsteps
  have hh := honest_of_steps hsteps
  have hans : ∀ a ∈ entryLog directory read ++ made.flatMap (·.log), p.Answers a.1 a.2 :=
    fun a ha => hk.of_answered ht.remembers hh (h.accounts.answered_perm.mem_iff.mpr ha)
  refine BuildPlan.needs_of_led ?_ ?_ (h.accounts.led r hr)
  · intro a ha
    refine ⟨?_, hans (_, a.2) (List.mem_append_left _ (List.mem_map_of_mem ha))⟩
    rw [h.entries_eq]
    exact List.mem_append_left _ (List.mem_map_of_mem ha)
  · intro t ht a ha
    exact hans a (List.mem_append_right _ (List.mem_flatMap.mpr ⟨t, ht, ha⟩))

/-- What is claimed or waits to be is needed. -/
theorem Account.needs_given (h : Account directory entries d read made) {r : Resolution}
    (hr : r ∈ d.run.begun ++ d.run.pending ++ d.waiting) : p.Needs directory entries r :=
  h.needs hk hsteps (h.accounts.given r hr)

omit hk in
/-- The task of a pending resolution succeeds when the resolvers answer it. -/
theorem Account.exists_value_task (h : Account directory entries d read made) {r : Resolution}
    {before later : List Resolution} (hp : d.run.pending = before ++ r :: later)
    {log : List (ResolveRequest × Resolution)} {m : Module} (hy : p.Yields r log m) :
    ∃ cs, value (process p r) (d.run.withPending (before ++ later)) = .ok cs := by
  have ht := tracks_of_steps hsteps
  have hr : r ∈ d.run.pending := by
    rw [hp]
    exact List.mem_append_right _ List.mem_cons_self
  refine Run.exists_value_process hy ?_
  change r.id ∉ d.run.graph.nodes.map Module.id
  have hids : d.run.graph.nodes.map Module.id = d.run.begun.map Resolution.id := by
    rw [h.accounts.graph_eq, h.ids_eq, List.map_map]
    rfl
  have hn := ht.ids_nodup
  rw [List.map_append] at hn
  rw [hids]
  intro hi
  exact List.disjoint_of_nodup_append hn hi (List.mem_map_of_mem hr)

/-- The task of a pending resolution succeeds when the build is feasible. -/
theorem Account.exists_value_process (h : Account directory entries d read made)
    (hf : p.Feasible directory entries) {r : Resolution} {before later : List Resolution}
    (hp : d.run.pending = before ++ r :: later) :
    ∃ cs, value (process p r) (d.run.withPending (before ++ later)) = .ok cs := by
  have hr : r ∈ d.run.pending := by
    rw [hp]
    exact List.mem_append_right _ List.mem_cons_self
  obtain ⟨log, m, hy⟩ := hf.tasks r
    (h.needs_given hk hsteps (List.mem_append_left _ (List.mem_append_right _ hr)))
  exact h.exists_value_task hsteps hp hy

/-- Claims are made when the build is feasible. -/
theorem Account.claimAll_ok (h : Account directory entries d read made)
    (hf : p.Feasible directory entries) {s : RunState} (hs : s.Tracks)
    (hc : s.claimed = d.run.claimed) {rs : List Resolution}
    (hr : ∀ r ∈ rs, p.Needs directory entries r) : value (claimAll p rs) s = .ok () := by
  have ht := tracks_of_steps hsteps
  obtain ⟨ids, hlen, hids⟩ := hf.room
  refine claimAll_of_subset hlen hs ?_ fun r hrs => hids r (hr r hrs)
  intro i hi
  rw [hc, ht.mem_claimed_iff] at hi
  obtain ⟨r, hr, rfl⟩ := List.mem_map.mp hi
  exact hids r (h.needs_given hk hsteps (List.mem_append_left _ hr))

/-- The next entry is resolved and claimed when the build is feasible. -/
theorem Account.resolveEntry_ok (h : Account directory entries d read made)
    (hf : p.Feasible directory entries) {e : String} {es : List String}
    (hu : d.unread = e :: es) : ∃ id, value (resolveEntry p directory e) d.run = .ok id := by
  have ht := tracks_of_steps hsteps
  have hh := honest_of_steps hsteps
  have he : e ∈ entries := by
    rw [h.entries_eq, hu]
    exact List.mem_append_right _ List.mem_cons_self
  obtain ⟨r, hr⟩ := exists_value_resolve (hf.answers e he) d.run
  have hl := resolve_links p (ResolveRequest.ofEntry e directory) d.run
  have hneeds : ∀ r' ∈ [r], p.Needs directory entries r' := by
    intro r' hr'
    rw [List.mem_singleton.mp hr']
    exact .entry he (answers_of_value_resolve hk ht hh hr)
  exact exists_value_resolveEntry hr
    (h.claimAll_ok hk hsteps hf (ht.links hl) hl.claimed hneeds)

omit hsteps in
/-- A feasible build cannot fail. -/
theorem unfailing_of_feasible (hf : p.Feasible directory entries) :
    Unfailing p directory entries where
  entry hsteps hacc hu := hacc.resolveEntry_ok hk hsteps hf hu
  task hsteps hacc hp := hacc.exists_value_process hk hsteps hf hp
  claims hsteps hacc _ hd := by
    refine hacc.claimAll_ok hk hsteps hf (tracks_of_steps hsteps) rfl fun r hr => ?_
    exact hacc.needs_given hk hsteps
      (List.mem_append_right _ (List.mem_flatMap.mpr ⟨.ok _, hd, hr⟩))

/-- A feasible build succeeds, in whatever order. -/
theorem Ends.ok_of_feasible (hf : p.Feasible directory entries) {x : Except BuildError Unit}
    {s : RunState} (h : d.Ends p directory x s) : x = .ok () :=
  (unfailing_of_feasible hk hf).ok ⟨d, hsteps, h⟩

end

end Driver

end BundleGraph
