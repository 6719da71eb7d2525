import BundleGraph.Plugin.Load
import BundleGraph.Plugin.Resolve
import Mathlib.Data.List.Basic

/-!
# How plugins answer

Resolvers and loaders are asked in one way.  A handler that accepts the question is called; it
passes the question on, fails or decides, and the first that does not pass it on ends the walk.
When all pass, the default is asked.  From this it can be told of which kind an error of a walk
is, and whose.

## Main definitions

* `Question` — what a walk puts to its handlers.
* `Question.decision` — the first handler that fails or decides; `Question.called` — the
  handlers called.
* `Registry.Decider` — that handler and the plugin that owns it.
* `Registry.ResolveFails`, `Registry.LoadFails` — the errors of the walks.
-/

namespace BundleGraph

variable {H α : Type}

/-- What a walk puts to its handlers. -/
structure Question (H α : Type) where
  accepts : H → Bool
  answer : H → Except String (Option α)

namespace Question

/-- What a handler fails with or decides, unless it rejects the question or passes it on. -/
def verdict? (k : Question H α) (h : H) : Option (Except String α) :=
  if k.accepts h then
    match k.answer h with
    | .error text => some (.error text)
    | .ok none => none
    | .ok (some a) => some (.ok a)
  else none

/-- The first verdict, with the plugin of the handler. -/
def decision (k : Question H α) (hs : List (String × H)) : Option (String × Except String α) :=
  hs.findSome? fun c => (k.verdict? c.2).map (c.1, ·)

/-- The handlers that are called: those that accept the question, up to the first verdict. -/
def called (k : Question H α) : List (String × H) → List (String × H)
  | [] => []
  | c :: hs =>
    if k.accepts c.2 then
      match k.verdict? c.2 with
      | some _ => [c]
      | none => c :: called k hs
    else called k hs

variable {k : Question H α} {h : H} {hs : List (String × H)}

theorem verdict?_eq_error_iff {text : String} :
    k.verdict? h = some (.error text) ↔ k.accepts h = true ∧ k.answer h = .error text := by
  rw [verdict?]
  split
  · rename_i ha
    rcases k.answer h with text' | _ | a <;> simp [ha]
  · rename_i ha
    simp [ha]

theorem verdict?_eq_ok_iff {a : α} :
    k.verdict? h = some (.ok a) ↔ k.accepts h = true ∧ k.answer h = .ok (some a) := by
  rw [verdict?]
  split
  · rename_i ha
    rcases k.answer h with text | _ | a' <;> simp [ha]
  · rename_i ha
    simp [ha]

theorem verdict?_eq_none_iff :
    k.verdict? h = none ↔ (k.accepts h = true → k.answer h = .ok none) := by
  rw [verdict?]
  split
  · rename_i ha
    rcases k.answer h with text | _ | a <;> simp [ha]
  · rename_i ha
    simp [ha]

theorem decision_cons_some {plugin : String} {x : Except String α}
    (hv : k.verdict? h = some x) : k.decision ((plugin, h) :: hs) = some (plugin, x) := by
  simp [decision, hv]

theorem decision_cons_none {plugin : String} (hv : k.verdict? h = none) :
    k.decision ((plugin, h) :: hs) = k.decision hs := by
  simp [decision, hv]

theorem decision_append (hs ks : List (String × H)) :
    k.decision (hs ++ ks) = (k.decision hs).or (k.decision ks) :=
  List.findSome?_append

theorem decision_eq_none_iff : k.decision hs = none ↔ ∀ c ∈ hs, k.verdict? c.2 = none := by
  simp [decision, List.findSome?_eq_none_iff]

/-- A handler of one plugin decides when those before it do not. -/
theorem decision_map_eq_some_iff {name plugin : String} {hs : List H} {x : Except String α} :
    k.decision (hs.map (name, ·)) = some (plugin, x) ↔
      plugin = name ∧ ∃ before h after, hs = before ++ h :: after ∧ k.verdict? h = some x ∧
        ∀ c ∈ before, k.verdict? c = none := by
  rw [decision, List.findSome?_map, List.findSome?_eq_some_iff]
  simp only [Function.comp_apply, Option.map_eq_some_iff, Option.map_eq_none_iff,
    Prod.mk.injEq]
  constructor
  · rintro ⟨before, h, after, rfl, ⟨x', hx, rfl, rfl⟩, hbefore⟩
    exact ⟨rfl, before, h, after, rfl, hx, hbefore⟩
  · rintro ⟨rfl, before, h, after, rfl, hx, hbefore⟩
    exact ⟨before, h, after, rfl, ⟨x, hx, rfl, rfl⟩, hbefore⟩

end Question

namespace Registry

variable {registry : Registry} {handlers : Plugin → List H} {k : Question H α}

/-- The handler `h` of the plugin `p` gives the first verdict. -/
structure Decider (registry : Registry) (handlers : Plugin → List H) (k : Question H α)
    (p : Plugin) (h : H) (x : Except String α) : Prop where
  verdict : k.verdict? h = some x
  /-- The handlers of the plugins before it and its own ones before it give none. -/
  first : ∃ ps qs before after, registry.plugins = ps ++ p :: qs ∧
    handlers p = before ++ h :: after ∧
    (∀ q ∈ ps, ∀ c ∈ handlers q, k.verdict? c = none) ∧ ∀ c ∈ before, k.verdict? c = none

/-- No handler gives a verdict. -/
def NoDecider (registry : Registry) (handlers : Plugin → List H) (k : Question H α) : Prop :=
  ∀ p ∈ registry.plugins, ∀ h ∈ handlers p, k.verdict? h = none

theorem decision_eq_none_iff :
    k.decision (registry.plugins.flatMap fun p => (handlers p).map (p.name, ·)) = none ↔
      registry.NoDecider handlers k := by
  rw [Question.decision_eq_none_iff, NoDecider]
  constructor
  · intro h p hp c hc
    exact h (p.name, c) (List.mem_flatMap.mpr ⟨p, hp, List.mem_map_of_mem hc⟩)
  · intro h c hc
    obtain ⟨p, hp, hmap⟩ := List.mem_flatMap.mp hc
    obtain ⟨a, ha, rfl⟩ := List.mem_map.mp hmap
    exact h p hp a ha

/-- The first verdict comes from a handler of the plugin it is ascribed to. -/
theorem decision_eq_some_iff {name : String} {x : Except String α} :
    k.decision (registry.plugins.flatMap fun p => (handlers p).map (p.name, ·)) =
        some (name, x) ↔
      ∃ p h, registry.Decider handlers k p h x ∧ p.name = name := by
  obtain ⟨plugins⟩ := registry
  constructor
  · intro hd
    induction plugins with
    | nil => cases hd
    | cons p plugins ih =>
      rw [List.flatMap_cons, Question.decision_append] at hd
      cases hp : k.decision ((handlers p).map (p.name, ·)) with
      | some v =>
        rw [hp, Option.some_or] at hd
        cases hd
        obtain ⟨rfl, before, h, after, hsplit, hv, hbefore⟩ :=
          Question.decision_map_eq_some_iff.mp hp
        exact ⟨p, h, ⟨hv, [], plugins, before, after, rfl, hsplit, by simp, hbefore⟩, rfl⟩
      | none =>
        rw [hp, Option.none_or] at hd
        obtain ⟨p', h, ⟨hv, ps, qs, before, after, hplugins, hsplit, hps, hbefore⟩, hname⟩ :=
          ih hd
        have hpass : ∀ c ∈ handlers p, k.verdict? c = none := fun c hc =>
          Question.decision_eq_none_iff.mp hp (p.name, c) (List.mem_map_of_mem hc)
        refine ⟨p', h, ⟨hv, p :: ps, qs, before, after, ?_, hsplit, ?_, hbefore⟩, hname⟩
        · exact congrArg (p :: ·) hplugins
        · exact List.forall_mem_cons.mpr ⟨hpass, hps⟩
  · rintro ⟨p, h, ⟨hv, ps, qs, before, after, rfl, hsplit, hps, hbefore⟩, rfl⟩
    have hpass : NoDecider ⟨ps⟩ handlers k := hps
    have hnone := decision_eq_none_iff.mpr hpass
    have hsome : k.decision ((handlers p).map (p.name, ·)) = some (p.name, x) :=
      Question.decision_map_eq_some_iff.mpr ⟨rfl, before, h, after, hsplit, hv, hbefore⟩
    rw [List.flatMap_append, List.flatMap_cons, Question.decision_append, hnone,
      Option.none_or, Question.decision_append, hsome, Option.some_or]

end Registry

/-! ## Calls in the journal -/

/-- The note tells of a call. -/
def Note.isCall : Note → Bool
  | .event _ => false
  | .resolverCalled _ _ => true
  | .loaderCalled _ _ => true

/-- The calls that work noted, in order. -/
def Work.calls (w : Work α) : List Note :=
  w.notes.filter Note.isCall

theorem Work.calls_bind {β : Type} (w : Work α) (f : α → Work β) :
    (w >>= f).calls =
      w.calls ++ match w.result with
        | .ok a => (f a).calls
        | .error _ => [] := by
  cases h : w.result with
  | ok a => simp [Work.calls, Work.bind_ok h]
  | error e => simp [Work.calls, Work.bind_error h]

@[simp] theorem Work.calls_tell (e : Event) : (Work.tell e).calls = [] := rfl
@[simp] theorem Work.calls_pure (a : α) : (pure a : Work α).calls = [] := rfl
@[simp] theorem Work.calls_fail (e : BuildError) : (Work.fail e : Work α).calls = [] := rfl
@[simp] theorem Work.calls_ofExcept (x : Except BuildError α) : (Work.ofExcept x).calls = [] := rfl

/-! ## Resolving -/

/-- What a request asks the resolvers. -/
def ResolveRequest.question (q : ResolveRequest) : Question ResolverHandler Target where
  accepts h := h.filter.accepts q.specifier q.space none
  answer h := h.answer q

/-- The walk comes to what the first verdict says, or else to what the default resolver does. -/
theorem result_resolveWith_eq (fallback : DefaultResolver) (q : ResolveRequest)
    (hs : List (String × ResolverHandler)) :
    (resolveWith fallback q hs).result =
      match q.question.decision hs with
      | some (plugin, .error text) => .error (.hookFailed plugin .resolve (.callback text))
      | some (plugin, .ok t) => Resolution.ofPlugin plugin t
      | none => (resolveByDefault fallback q).result := by
  induction hs with
  | nil => rfl
  | cons c hs ih =>
    obtain ⟨plugin, h⟩ := c
    rw [resolveWith]
    by_cases ha : h.filter.accepts q.specifier q.space none = true
    · rw [if_pos ha]
      rcases hans : h.answer q with text | _ | t
      · rw [Question.decision_cons_some (Question.verdict?_eq_error_iff.mpr ⟨ha, hans⟩)]
        rfl
      · rw [Question.decision_cons_none (Question.verdict?_eq_none_iff.mpr fun _ => hans), ← ih]
        rfl
      · rw [Question.decision_cons_some (Question.verdict?_eq_ok_iff.mpr ⟨ha, hans⟩)]
        have hr : (resolveWith fallback q ((plugin, h) :: hs)).result =
            Resolution.ofPlugin plugin t := result_resolveWith ha hans
        rw [resolveWith, if_pos ha, hans] at hr
        exact hr
    · have hpass : q.question.verdict? h = none :=
        Question.verdict?_eq_none_iff.mpr fun h' => absurd h' ha
      rw [if_neg ha, Question.decision_cons_none hpass, ← ih]
      rfl

/-- The default resolver gives a target, which has to name an identity. -/
theorem result_resolveByDefault (fallback : DefaultResolver) (q : ResolveRequest) :
    (resolveByDefault fallback q).result =
      match (fallback q).result with
      | .error e => .error e
      | .ok none => .error q.unresolved
      | .ok (some t) => Resolution.ofDefault t := by
  rw [resolveByDefault, Work.result_bind]
  rcases (fallback q).result with e | _ | t
  · rfl
  · rfl
  · simp only [Except.bind, Work.result_bind, Work.result_ofExcept, Work.result_tell,
      Work.result_pure]
    cases Resolution.ofDefault t <;> rfl

/-- The default resolver is called when no handler decides, and what it calls comes last. -/
theorem calls_resolveByDefault (fallback : DefaultResolver) (q : ResolveRequest) :
    (resolveByDefault fallback q).calls = (fallback q).calls := by
  rw [resolveByDefault, Work.calls_bind]
  rcases (fallback q).result with e | _ | t
  · simp
  · simp
  · simp only [Work.calls_bind, Work.calls_ofExcept, Work.calls_tell, Work.calls_pure]
    cases Resolution.ofDefault t <;> simp

/-- The journal of a walk shows the calls of the handlers that are called, in their order and with
the request as it is, and then those of the default resolver if no handler decides. -/
theorem calls_resolveWith (fallback : DefaultResolver) (q : ResolveRequest)
    (hs : List (String × ResolverHandler)) :
    (resolveWith fallback q hs).calls =
      ((q.question.called hs).map fun c => .resolverCalled c.2.mark q) ++
        if (q.question.decision hs).isNone then (fallback q).calls else [] := by
  induction hs with
  | nil => exact calls_resolveByDefault fallback q
  | cons c hs ih =>
    obtain ⟨plugin, h⟩ := c
    have hnote : (Work.note (.resolverCalled h.mark q)).calls = [.resolverCalled h.mark q] := rfl
    rw [resolveWith, Question.called]
    by_cases ha : h.filter.accepts q.specifier q.space none = true
    · rw [if_pos ha, if_pos (show q.question.accepts h = true from ha), Work.calls_bind, hnote,
        Work.result_note]
      rcases hans : h.answer q with text | _ | t
      · have hv := Question.verdict?_eq_error_iff (k := q.question).mpr ⟨ha, hans⟩
        rw [hv, Question.decision_cons_some hv]
        rfl
      · have hv := Question.verdict?_eq_none_iff (k := q.question).mpr fun _ => hans
        rw [hv, Question.decision_cons_none hv]
        exact congrArg _ ih
      · have hv := Question.verdict?_eq_ok_iff (k := q.question).mpr ⟨ha, hans⟩
        rw [hv, Question.decision_cons_some hv]
        cases hr : Resolution.ofPlugin plugin t <;> simp [Work.calls_bind, hr]
    · have hv : q.question.verdict? h = none :=
        Question.verdict?_eq_none_iff.mpr fun h' => absurd h' ha
      rw [if_neg ha, if_neg (show ¬ q.question.accepts h = true from ha), Work.calls_bind,
        Question.decision_cons_none hv]
      exact ih

/-- When a handler decides, the default resolver has no part in the walk. -/
theorem resolveWith_eq_of_decision {q : ResolveRequest} {hs : List (String × ResolverHandler)}
    (hd : q.question.decision hs ≠ none) (fallback fallback' : DefaultResolver) :
    resolveWith fallback q hs = resolveWith fallback' q hs := by
  induction hs with
  | nil => exact absurd rfl hd
  | cons c hs ih =>
    obtain ⟨plugin, h⟩ := c
    rw [resolveWith, resolveWith]
    by_cases ha : h.filter.accepts q.specifier q.space none = true
    · rw [if_pos ha, if_pos ha]
      rcases hans : h.answer q with text | _ | t
      · rfl
      · have hv := Question.verdict?_eq_none_iff (k := q.question).mpr fun _ => hans
        rw [Question.decision_cons_none hv] at hd
        simp only [ih hd]
      · rfl
    · have hv : q.question.verdict? h = none :=
        Question.verdict?_eq_none_iff.mpr fun h' => absurd h' ha
      rw [Question.decision_cons_none hv] at hd
      rw [if_neg ha, if_neg ha, ih hd]

/-- When no handler decides, the walk ends with what the default resolver does. -/
theorem notes_resolveByDefault_suffix {q : ResolveRequest} {hs : List (String × ResolverHandler)}
    (hd : q.question.decision hs = none) (fallback : DefaultResolver) :
    (resolveByDefault fallback q).notes <:+ (resolveWith fallback q hs).notes := by
  induction hs with
  | nil => exact List.suffix_rfl
  | cons c hs ih =>
    obtain ⟨plugin, h⟩ := c
    have hv := Question.decision_eq_none_iff.mp hd (plugin, h) List.mem_cons_self
    rw [Question.decision_cons_none hv] at hd
    rw [resolveWith]
    by_cases ha : h.filter.accepts q.specifier q.space none = true
    · have hans : h.answer q = .ok none := Question.verdict?_eq_none_iff.mp hv ha
      rw [if_pos ha, hans, Work.bind_ok (Work.result_note _)]
      exact (ih hd).trans (List.suffix_append _ _)
    · rw [if_neg ha, Work.bind_ok (Work.result_tell _)]
      exact (ih hd).trans (List.suffix_append _ _)

/-- The default resolver does its work first when it is asked. -/
theorem notes_prefix_resolveByDefault (fallback : DefaultResolver) (q : ResolveRequest) :
    (fallback q).notes <+: (resolveByDefault fallback q).notes := by
  rw [resolveByDefault]
  cases hr : (fallback q).result with
  | ok t =>
    rw [Work.bind_ok hr]
    exact List.prefix_append _ _
  | error e => exact ⟨[], by rw [Work.bind_error hr, List.append_nil]⟩

/-- What is wrong with the target that a resolver decided on. -/
inductive Target.Refused (t : Target) : HookFailure → Prop where
  | emptyPath (h : t.path.isEmpty = true) : Refused t .emptyPath
  | identity {e : IdentityError} (hp : t.path.isEmpty = false) (h : t.identity = .error e) :
      Refused t (.identity e)

theorem Resolution.ofPlugin_eq_error_iff {plugin : String} {t : Target} {e : BuildError} :
    Resolution.ofPlugin plugin t = .error e ↔
      ∃ f, t.Refused f ∧ e = .hookFailed plugin .resolve f := by
  rw [ofPlugin]
  constructor
  · intro h
    split at h
    · rename_i hp
      cases h
      exact ⟨_, .emptyPath hp, rfl⟩
    · rename_i hp
      cases ht : t.identity with
      | ok id => rw [ht] at h; cases h
      | error x =>
        rw [ht] at h
        cases h
        exact ⟨_, .identity (Bool.eq_false_iff.mpr hp) ht, rfl⟩
  · rintro ⟨f, hf, rfl⟩
    cases hf with
    | emptyPath hp => rw [if_pos hp]
    | identity hp ht => rw [if_neg (Bool.eq_false_iff.mp hp), ht]

/-- The error of a request that is walked through the resolvers. -/
inductive Registry.ResolveFails (registry : Registry) (fallback : DefaultResolver)
    (q : ResolveRequest) : BuildError → Prop where
  /-- A callback fails. -/
  | callback {p : Plugin} {h : ResolverHandler} {text : String}
      (hd : registry.Decider Plugin.resolvers q.question p h (.error text)) :
      ResolveFails registry fallback q (.hookFailed p.name .resolve (.callback text))
  /-- A callback decides on a target that is none. -/
  | target {p : Plugin} {h : ResolverHandler} {t : Target} {f : HookFailure}
      (hd : registry.Decider Plugin.resolvers q.question p h (.ok t)) (hf : t.Refused f) :
      ResolveFails registry fallback q (.hookFailed p.name .resolve f)
  /-- The default resolver fails. -/
  | fallback {e : BuildError} (hd : registry.NoDecider Plugin.resolvers q.question)
      (hf : (fallback q).result = .error e) : ResolveFails registry fallback q e
  /-- The default resolver answers with a target that is none. -/
  | identity {t : Target} {e : IdentityError}
      (hd : registry.NoDecider Plugin.resolvers q.question)
      (hf : (fallback q).result = .ok (some t)) (ht : t.identity = .error e) :
      ResolveFails registry fallback q (.graph (.identity e))
  /-- The specifier leads nowhere. -/
  | nowhere (hd : registry.NoDecider Plugin.resolvers q.question)
      (hf : (fallback q).result = .ok none) :
      ResolveFails registry fallback q
        (.unresolved q.specifier (q.importer.map ModuleId.display))

theorem resolveByDefault_eq_error_iff {fallback : DefaultResolver} {q : ResolveRequest}
    {e : BuildError} :
    (resolveByDefault fallback q).result = .error e ↔
      (fallback q).result = .error e ∨
        (∃ t x, (fallback q).result = .ok (some t) ∧ t.identity = .error x ∧
          e = .graph (.identity x)) ∨
        (fallback q).result = .ok none ∧ e = q.unresolved := by
  rw [result_resolveByDefault]
  rcases hf : (fallback q).result with x | _ | t
  · simp
  · simp [eq_comm]
  · simp only [Resolution.ofDefault]
    cases ht : t.identity with
    | ok id => simp [ht]
    | error x => simp [ht, eq_comm]

/-- A walk through the resolvers fails in one of these ways. -/
theorem Registry.resolve_eq_error_iff {registry : Registry} {fallback : DefaultResolver}
    {q : ResolveRequest} {e : BuildError} :
    (registry.resolve fallback q).result = .error e ↔ registry.ResolveFails fallback q e := by
  rw [resolve, result_resolveWith_eq]
  constructor
  · intro h
    rcases hd : q.question.decision registry.resolvers with _ | ⟨plugin, text | t⟩
    · rw [hd] at h
      have hnone := decision_eq_none_iff.mp hd
      rcases resolveByDefault_eq_error_iff.mp h with hf | ⟨t, x, hf, ht, rfl⟩ | ⟨hf, rfl⟩
      · exact .fallback hnone hf
      · exact .identity hnone hf ht
      · exact .nowhere hnone hf
    · rw [hd] at h
      obtain ⟨p, c, hp, rfl⟩ := decision_eq_some_iff.mp hd
      cases h
      exact .callback hp
    · rw [hd] at h
      obtain ⟨p, c, hp, rfl⟩ := decision_eq_some_iff.mp hd
      obtain ⟨f, hf, rfl⟩ := Resolution.ofPlugin_eq_error_iff.mp h
      exact .target hp hf
  · intro h
    cases h with
    | callback hd => rw [resolvers, decision_eq_some_iff.mpr ⟨_, _, hd, rfl⟩]
    | target hd hf =>
      rw [resolvers, decision_eq_some_iff.mpr ⟨_, _, hd, rfl⟩]
      exact Resolution.ofPlugin_eq_error_iff.mpr ⟨_, hf, rfl⟩
    | fallback hd hf =>
      rw [resolvers, decision_eq_none_iff.mpr hd]
      exact resolveByDefault_eq_error_iff.mpr (.inl hf)
    | identity hd hf ht =>
      rw [resolvers, decision_eq_none_iff.mpr hd]
      exact resolveByDefault_eq_error_iff.mpr (.inr (.inl ⟨_, _, hf, ht, rfl⟩))
    | nowhere hd hf =>
      rw [resolvers, decision_eq_none_iff.mpr hd]
      exact resolveByDefault_eq_error_iff.mpr (.inr (.inr ⟨hf, rfl⟩))

/-- What a request asks the loaders.  A filter without a namespace accepts files. -/
def LoadRequest.question (q : LoadRequest) : Question LoaderHandler Contents where
  accepts h := h.filter.accepts q.id.path q.id.space (some fileSpace)
  answer h := h.answer q

/-- The walk comes to what the first verdict says, or else to what the default loader does. -/
theorem result_loadWith_eq (fallback : DefaultLoader) (q : LoadRequest)
    (hs : List (String × LoaderHandler)) :
    (loadWith fallback q hs).result =
      match q.question.decision hs with
      | some (plugin, .error text) => .error (.hookFailed plugin .load (.callback text))
      | some (plugin, .ok c) => .ok (LoadedModule.ofContents q.id c (some plugin))
      | none => (loadByDefault fallback q.id).result := by
  induction hs with
  | nil => rfl
  | cons c hs ih =>
    obtain ⟨plugin, h⟩ := c
    rw [loadWith]
    by_cases ha : h.filter.accepts q.id.path q.id.space (some fileSpace) = true
    · rw [if_pos ha]
      rcases hans : h.answer q with text | _ | t
      · rw [Question.decision_cons_some (Question.verdict?_eq_error_iff.mpr ⟨ha, hans⟩)]
        rfl
      · rw [Question.decision_cons_none (Question.verdict?_eq_none_iff.mpr fun _ => hans), ← ih]
        rfl
      · rw [Question.decision_cons_some (Question.verdict?_eq_ok_iff.mpr ⟨ha, hans⟩)]
        rfl
    · have hpass : q.question.verdict? h = none :=
        Question.verdict?_eq_none_iff.mpr fun h' => absurd h' ha
      rw [if_neg ha, Question.decision_cons_none hpass, ← ih]
      rfl

theorem calls_loadByDefault (fallback : DefaultLoader) (id : ModuleId) :
    (loadByDefault fallback id).calls = [] := by
  rw [loadByDefault, Work.calls_bind, Work.result_ofExcept]
  rcases fallback id with e | _ | c
  · simp
  · simp
  · simp [Work.calls_bind]

/-- The journal of a walk shows the calls of the handlers that are called. -/
theorem calls_loadWith (fallback : DefaultLoader) (q : LoadRequest)
    (hs : List (String × LoaderHandler)) :
    (loadWith fallback q hs).calls =
      (q.question.called hs).map fun c => .loaderCalled c.2.mark q := by
  induction hs with
  | nil => exact calls_loadByDefault fallback q.id
  | cons c hs ih =>
    obtain ⟨plugin, h⟩ := c
    have hnote : (Work.note (.loaderCalled h.mark q)).calls = [.loaderCalled h.mark q] := rfl
    rw [loadWith, Question.called]
    by_cases ha : h.filter.accepts q.id.path q.id.space (some fileSpace) = true
    · rw [if_pos ha, if_pos (show q.question.accepts h = true from ha), Work.calls_bind, hnote,
        Work.result_note]
      rcases hans : h.answer q with text | _ | c
      · rw [Question.verdict?_eq_error_iff.mpr ⟨ha, hans⟩]
        rfl
      · rw [Question.verdict?_eq_none_iff.mpr fun _ => hans]
        exact congrArg _ ih
      · rw [Question.verdict?_eq_ok_iff.mpr ⟨ha, hans⟩]
        rfl
    · rw [if_neg ha, if_neg (show ¬ q.question.accepts h = true from ha), Work.calls_bind]
      exact ih

/-- When a handler decides, the default loader has no part in the walk. -/
theorem loadWith_eq_of_decision {q : LoadRequest} {hs : List (String × LoaderHandler)}
    (hd : q.question.decision hs ≠ none) (fallback fallback' : DefaultLoader) :
    loadWith fallback q hs = loadWith fallback' q hs := by
  induction hs with
  | nil => exact absurd rfl hd
  | cons c hs ih =>
    obtain ⟨plugin, h⟩ := c
    rw [loadWith, loadWith]
    by_cases ha : h.filter.accepts q.id.path q.id.space (some fileSpace) = true
    · rw [if_pos ha, if_pos ha]
      rcases hans : h.answer q with text | _ | c
      · rfl
      · have hv := Question.verdict?_eq_none_iff (k := q.question).mpr fun _ => hans
        rw [Question.decision_cons_none hv] at hd
        simp only [ih hd]
      · rfl
    · have hv : q.question.verdict? h = none :=
        Question.verdict?_eq_none_iff.mpr fun h' => absurd h' ha
      rw [Question.decision_cons_none hv] at hd
      rw [if_neg ha, if_neg ha, ih hd]

/-- The error of a module that is walked through the loaders. -/
inductive Registry.LoadFails (registry : Registry) (fallback : DefaultLoader) (q : LoadRequest) :
    BuildError → Prop where
  /-- A callback fails. -/
  | callback {p : Plugin} {h : LoaderHandler} {text : String}
      (hd : registry.Decider Plugin.loaders q.question p h (.error text)) :
      LoadFails registry fallback q (.hookFailed p.name .load (.callback text))
  /-- The default loader fails. -/
  | fallback {e : BuildError} (hd : registry.NoDecider Plugin.loaders q.question)
      (hf : fallback q.id = .error e) : LoadFails registry fallback q e
  /-- Nothing is known about the contents. -/
  | unrecognized (hd : registry.NoDecider Plugin.loaders q.question)
      (hf : fallback q.id = .ok none) : LoadFails registry fallback q (.unrecognized q.id)

theorem loadByDefault_eq_error_iff {fallback : DefaultLoader} {id : ModuleId} {e : BuildError} :
    (loadByDefault fallback id).result = .error e ↔
      fallback id = .error e ∨ fallback id = .ok none ∧ e = .unrecognized id := by
  rw [loadByDefault, Work.result_bind, Work.result_ofExcept]
  rcases hf : fallback id with x | _ | c
  · simp [Except.bind]
  · simp [Except.bind, Work.fail, eq_comm]
  · simp [Except.bind, Work.result_bind]

/-- A walk through the loaders fails in one of these ways. -/
theorem Registry.load_eq_error_iff {registry : Registry} {fallback : DefaultLoader}
    {q : LoadRequest} {e : BuildError} :
    (registry.load fallback q).result = .error e ↔ registry.LoadFails fallback q e := by
  rw [load, result_loadWith_eq]
  constructor
  · intro h
    rcases hd : q.question.decision registry.loaders with _ | ⟨plugin, text | c⟩
    · rw [hd] at h
      have hnone := decision_eq_none_iff.mp hd
      rcases loadByDefault_eq_error_iff.mp h with hf | ⟨hf, rfl⟩
      · exact .fallback hnone hf
      · exact .unrecognized hnone hf
    · rw [hd] at h
      obtain ⟨p, c, hp, rfl⟩ := decision_eq_some_iff.mp hd
      cases h
      exact .callback hp
    · rw [hd] at h
      cases h
  · intro h
    cases h with
    | callback hd => rw [loaders, decision_eq_some_iff.mpr ⟨_, _, hd, rfl⟩]
    | fallback hd hf =>
      rw [loaders, decision_eq_none_iff.mpr hd]
      exact loadByDefault_eq_error_iff.mpr (.inl hf)
    | unrecognized hd hf =>
      rw [loaders, decision_eq_none_iff.mpr hd]
      exact loadByDefault_eq_error_iff.mpr (.inr ⟨hf, rfl⟩)

end BundleGraph
