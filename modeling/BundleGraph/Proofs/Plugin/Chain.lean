import BundleGraph.Proofs.Plugin.Dispatch

/-!
# The law of both chains

Of all handlers, in the order of their plugins and then in their own, those count that take a
request.  They are called one after the other, each once and with the request as it is, up to
the first that does not pass it on.  That one decides alone: what it fails with is an error of
its plugin, and what it matches with is the answer, in the name of its plugin.  Only when all
pass is the default consulted.

The chains differ in what a handler without a namespace takes, which is any request to resolve
but only files to load, and in what can be wrong with a match.

## Main definitions

* `Chain`, `Chain.Walk` — the walk of a request along handlers: which are called, whether the
  default is consulted, and what comes of it.
* `Registry.resolverChain`, `Registry.loaderChain` — the two chains.
* `Registry.dispatch_law` — resolving and loading are these walks.
-/

namespace BundleGraph

variable {H α β : Type}

/-! ## Handlers that take a question -/

namespace Question

variable {k : Question H α} {hs : List (String × H)}

/-- The handlers that accept the question, in their order. -/
def candidates (k : Question H α) (hs : List (String × H)) : List (String × H) :=
  hs.filter fun c => k.accepts c.2

/-- A handler that rejects the question has no part in the decision. -/
theorem decision_candidates (k : Question H α) (hs : List (String × H)) :
    k.decision (k.candidates hs) = k.decision hs := by
  induction hs with
  | nil => rfl
  | cons c hs ih =>
    by_cases ha : k.accepts c.2 = true
    · have hcons : k.candidates (c :: hs) = c :: k.candidates hs := List.filter_cons_of_pos ha
      rw [hcons, decision, List.findSome?_cons, ← decision, ih, decision, decision,
        List.findSome?_cons]
    · have hcons : k.candidates (c :: hs) = k.candidates hs := List.filter_cons_of_neg ha
      have hv : k.verdict? c.2 = none := verdict?_eq_none_iff.mpr fun h => absurd h ha
      rw [hcons, ih, decision_cons_none hv]

/-- A handler that rejects the question is not called. -/
theorem called_candidates (k : Question H α) (hs : List (String × H)) :
    k.called (k.candidates hs) = k.called hs := by
  induction hs with
  | nil => rfl
  | cons c hs ih =>
    by_cases ha : k.accepts c.2 = true
    · have hcons : k.candidates (c :: hs) = c :: k.candidates hs := List.filter_cons_of_pos ha
      rw [hcons, called, called, ih]
    · have hcons : k.candidates (c :: hs) = k.candidates hs := List.filter_cons_of_neg ha
      rw [hcons, ih, called, if_neg ha]

/-- Handlers that pass the question on are called and leave it to those after them. -/
theorem called_append {passed : List (String × H)}
    (hp : ∀ c ∈ passed, k.accepts c.2 = true ∧ k.answer c.2 = .ok none) :
    k.called (passed ++ hs) = passed ++ k.called hs := by
  induction passed with
  | nil => rfl
  | cons c passed ih =>
    obtain ⟨⟨ha, hans⟩, hp⟩ := List.forall_mem_cons.mp hp
    have hv : k.verdict? c.2 = none := verdict?_eq_none_iff.mpr fun _ => hans
    rw [List.cons_append, called, if_pos ha, hv, ih hp]
    rfl

theorem accepts_of_mem_candidates {c : String × H} (hc : c ∈ k.candidates hs) :
    k.accepts c.2 = true :=
  List.of_mem_filter (p := fun c : String × H => k.accepts c.2) hc

theorem accepts_of_split {passed later : List (String × H)} {b : String × H}
    (hc : k.candidates hs = passed ++ b :: later) : k.accepts b.2 = true := by
  have hb : b ∈ k.candidates hs := by
    rw [hc]
    exact List.mem_append_right _ List.mem_cons_self
  exact accepts_of_mem_candidates hb

/-- When all candidates pass the question on, all are called and none decides. -/
theorem course_of_all_pass (hp : ∀ c ∈ k.candidates hs, k.answer c.2 = .ok none) :
    k.decision hs = none ∧ k.called hs = k.candidates hs := by
  have hall : ∀ c ∈ k.candidates hs, k.accepts c.2 = true ∧ k.answer c.2 = .ok none :=
    fun c hc => ⟨accepts_of_mem_candidates hc, hp c hc⟩
  have hcalled : k.called (k.candidates hs ++ []) = k.candidates hs ++ k.called [] :=
    called_append hall
  rw [called, List.append_nil, called_candidates] at hcalled
  refine ⟨?_, hcalled⟩
  rw [← decision_candidates, decision_eq_none_iff]
  exact fun c hc => verdict?_eq_none_iff.mpr fun _ => hp c hc

/-- The first candidate that does not pass the question on is the last one called, and it
decides. -/
theorem course_of_split {passed later : List (String × H)} {plugin : String} {h : H}
    {x : Except String α} (hc : k.candidates hs = passed ++ (plugin, h) :: later)
    (hp : ∀ c ∈ passed, k.answer c.2 = .ok none) (hv : k.verdict? h = some x) :
    k.decision hs = some (plugin, x) ∧ k.called hs = passed ++ [(plugin, h)] := by
  have haccepts : ∀ c ∈ passed ++ (plugin, h) :: later, k.accepts c.2 = true :=
    fun c hmem => accepts_of_mem_candidates (hc ▸ hmem)
  obtain ⟨hpassed, hlater⟩ := List.forall_mem_append.mp haccepts
  have hnone : k.decision passed = none := by
    rw [decision_eq_none_iff]
    exact fun c hc => verdict?_eq_none_iff.mpr fun _ => hp c hc
  constructor
  · rw [← decision_candidates, hc, decision_append, hnone, Option.none_or, decision_cons_some hv]
  · rw [← called_candidates, hc, called_append fun c hc => ⟨hpassed c hc, hp c hc⟩, called,
      if_pos (hlater _ List.mem_cons_self), hv]

/-- A question that is decided is so by the first candidate that does not pass it on. -/
theorem exists_split_of_decision {plugin : String} {x : Except String α}
    (hd : k.decision hs = some (plugin, x)) :
    ∃ passed h later, k.candidates hs = passed ++ (plugin, h) :: later ∧
      (∀ c ∈ passed, k.answer c.2 = .ok none) ∧ k.verdict? h = some x := by
  rw [← decision_candidates, decision, List.findSome?_eq_some_iff] at hd
  obtain ⟨passed, ⟨plugin', h⟩, later, hc, hv, hp⟩ := hd
  obtain ⟨x', hx, hname⟩ := Option.map_eq_some_iff.mp hv
  cases hname
  refine ⟨passed, h, later, hc, fun c hmem => ?_, hx⟩
  have hmem' : c ∈ k.candidates hs := by
    rw [hc]
    exact List.mem_append_left _ hmem
  exact verdict?_eq_none_iff.mp (Option.map_eq_none_iff.mp (hp c hmem))
    (accepts_of_mem_candidates hmem')

end Question

/-! ## Chains -/

/-- Handlers in order with the names of their plugins, and what becomes of one request. -/
structure Chain (H α β : Type) where
  handlers : List (String × H)
  /-- Whether a handler counts for the request. -/
  takes : H → Bool
  answer : H → Except String (Option α)
  hook : HookKind
  /-- What the match of a plugin becomes. -/
  Becomes : String → α → Except BuildError β → Prop
  /-- What the default comes to. -/
  Default : Except BuildError β → Prop

namespace Chain

/-- The handlers that take the request. -/
def candidates (c : Chain H α β) : List (String × H) :=
  c.handlers.filter fun a => c.takes a.2

/-- The walk of a request: the handlers that are called, whether the default is consulted, and
what comes of it. -/
inductive Walk (c : Chain H α β) : List (String × H) → Bool → Except BuildError β → Prop where
  /-- The first handler that does not pass the request on fails. -/
  | fails {passed later : List (String × H)} {plugin : String} {h : H} {text : String}
      (hc : c.candidates = passed ++ (plugin, h) :: later)
      (hp : ∀ a ∈ passed, c.answer a.2 = .ok none) (ha : c.answer h = .error text) :
      Walk c (passed ++ [(plugin, h)]) false (.error (.hookFailed plugin c.hook (.callback text)))
  /-- The first handler that does not pass the request on matches. -/
  | matched {passed later : List (String × H)} {plugin : String} {h : H} {a : α}
      {x : Except BuildError β} (hc : c.candidates = passed ++ (plugin, h) :: later)
      (hp : ∀ b ∈ passed, c.answer b.2 = .ok none) (ha : c.answer h = .ok (some a))
      (hx : c.Becomes plugin a x) : Walk c (passed ++ [(plugin, h)]) false x
  /-- All handlers pass the request on. -/
  | default {x : Except BuildError β} (hp : ∀ a ∈ c.candidates, c.answer a.2 = .ok none)
      (hx : c.Default x) : Walk c c.candidates true x

/-- What a chain puts to its handlers. -/
def question (c : Chain H α β) : Question H α :=
  ⟨c.takes, c.answer⟩

variable {c : Chain H α β} {called : List (String × H)} {consulted : Bool}
  {x : Except BuildError β}

/-- A walk is what the first verdict makes it. -/
theorem walk_iff :
    c.Walk called consulted x ↔
      called = c.question.called c.handlers ∧
        consulted = (c.question.decision c.handlers).isNone ∧
        match c.question.decision c.handlers with
        | some (plugin, .error text) => x = .error (.hookFailed plugin c.hook (.callback text))
        | some (plugin, .ok a) => c.Becomes plugin a x
        | none => c.Default x := by
  constructor
  · rintro (⟨hc, hp, ha⟩ | ⟨hc, hp, ha, hx⟩ | ⟨hp, hx⟩)
    · have htakes := Question.accepts_of_split (k := c.question) hc
      obtain ⟨hd, hcalled⟩ := Question.course_of_split (k := c.question) hc hp
        (Question.verdict?_eq_error_iff.mpr ⟨htakes, ha⟩)
      rw [hd, hcalled]
      exact ⟨rfl, rfl, rfl⟩
    · have htakes := Question.accepts_of_split (k := c.question) hc
      obtain ⟨hd, hcalled⟩ := Question.course_of_split (k := c.question) hc hp
        (Question.verdict?_eq_ok_iff.mpr ⟨htakes, ha⟩)
      rw [hd, hcalled]
      exact ⟨rfl, rfl, hx⟩
    · obtain ⟨hd, hcalled⟩ := Question.course_of_all_pass (k := c.question) hp
      rw [hd, hcalled]
      exact ⟨rfl, rfl, hx⟩
  · rintro ⟨rfl, rfl, hx⟩
    rcases hd : c.question.decision c.handlers with _ | ⟨plugin, text | a⟩
    · have hp : ∀ a ∈ c.candidates, c.answer a.2 = .ok none := fun a ha =>
        Question.verdict?_eq_none_iff.mp
          (Question.decision_eq_none_iff.mp hd a (List.mem_of_mem_filter ha))
          (Question.accepts_of_mem_candidates ha)
      rw [hd] at hx
      rw [(Question.course_of_all_pass (k := c.question) hp).2]
      exact .default hp hx
    · obtain ⟨passed, h, later, hc, hp, hv⟩ := Question.exists_split_of_decision hd
      rw [hd] at hx
      rw [hx, (Question.course_of_split hc hp hv).2]
      exact .fails hc hp (Question.verdict?_eq_error_iff.mp hv).2
    · obtain ⟨passed, h, later, hc, hp, hv⟩ := Question.exists_split_of_decision hd
      rw [hd] at hx
      rw [(Question.course_of_split hc hp hv).2]
      exact .matched hc hp (Question.verdict?_eq_ok_iff.mp hv).2 hx

end Chain

/-! ## Resolving -/

/-- The identity that a target names: in the namespace of files if none is given, and none if a
part of it is empty. -/
inductive Target.Names (t : Target) : Except IdentityError ModuleId → Prop where
  | identity (hp : t.path ≠ "") (hs : t.space ≠ some "") :
      Names t (.ok ⟨t.path, t.space.getD fileSpace⟩)
  | emptyPath (hp : t.path = "") : Names t (.error .emptyPath)
  | emptySpace (hp : t.path ≠ "") (hs : t.space = some "") :
      Names t (.error (.emptyNamespace t.path))

/-- What the match of a resolver becomes. -/
inductive Target.Becomes (t : Target) (plugin : String) : Except BuildError Resolution → Prop where
  | resolution {id : ModuleId} (h : t.Names (.ok id)) :
      Becomes t plugin (.ok ⟨id, t.external, t.pluginData, some plugin⟩)
  | emptyPath (hp : t.path = "") :
      Becomes t plugin (.error (.hookFailed plugin .resolve .emptyPath))
  | refused {e : IdentityError} (hp : t.path ≠ "") (h : t.Names (.error e)) :
      Becomes t plugin (.error (.hookFailed plugin .resolve (.identity e)))

/-- What a request comes to by the answer of the default resolver. -/
inductive ResolveRequest.ByDefault (q : ResolveRequest) :
    Except BuildError (Option Target) → Except BuildError Resolution → Prop where
  | resolution {t : Target} {id : ModuleId} (h : t.Names (.ok id)) :
      ByDefault q (.ok (some t)) (.ok ⟨id, t.external, t.pluginData, none⟩)
  | refused {t : Target} {e : IdentityError} (h : t.Names (.error e)) :
      ByDefault q (.ok (some t)) (.error (.graph (.identity e)))
  | nowhere :
      ByDefault q (.ok none) (.error (.unresolved q.specifier (q.importer.map ModuleId.display)))
  | fails {e : BuildError} : ByDefault q (.error e) (.error e)

theorem Target.names_iff {t : Target} {x : Except IdentityError ModuleId} :
    t.Names x ↔ x = t.identity := by
  rw [identity, ModuleId.create]
  constructor
  · rintro (⟨hp, hs⟩ | hp | ⟨hp, hs⟩)
    · have hspace : (t.space.getD fileSpace).isEmpty = false := by
        cases hn : t.space with
        | none => decide
        | some n => simpa [hn] using hs
      rw [if_neg (by simpa using hp), hspace]
      rfl
    · rw [hp]
      rfl
    · rw [if_neg (by simpa using hp), hs]
      rfl
  · rintro rfl
    by_cases hp : t.path = ""
    · rw [if_pos (by simpa using hp)]
      exact .emptyPath hp
    · rw [if_neg (by simpa using hp)]
      split
      · rename_i hs
        cases hn : t.space with
        | none => simp [hn, fileSpace] at hs
        | some n => exact .emptySpace hp (by simpa [hn] using hs)
      · rename_i hs
        exact .identity hp fun hn => hs (by simp [hn])

theorem Target.becomes_iff {t : Target} {plugin : String} {x : Except BuildError Resolution} :
    t.Becomes plugin x ↔ x = Resolution.ofPlugin plugin t := by
  rw [Resolution.ofPlugin]
  constructor
  · rintro (h | hp | ⟨hp, h⟩)
    · have hp : t.path ≠ "" := by
        cases h with
        | identity hp hs => exact hp
      rw [if_neg (by simpa using hp), ← names_iff.mp h]
    · rw [if_pos (by simpa using hp)]
    · rw [if_neg (by simpa using hp), ← names_iff.mp h]
  · rintro rfl
    split
    · rename_i hp
      exact .emptyPath (by simpa using hp)
    · rename_i hp
      cases hi : t.identity with
      | ok id => exact .resolution (names_iff.mpr hi.symm)
      | error e => exact .refused (by simpa using hp) (names_iff.mpr hi.symm)

theorem ResolveRequest.byDefault_iff {fallback : DefaultResolver} {q : ResolveRequest}
    {x : Except BuildError Resolution} :
    q.ByDefault (fallback q).result x ↔ x = (resolveByDefault fallback q).result := by
  rw [result_resolveByDefault]
  rcases (fallback q).result with e | _ | t
  · constructor
    · rintro ⟨⟩
      rfl
    · rintro rfl
      exact .fails
  · constructor
    · rintro ⟨⟩
      rfl
    · rintro rfl
      exact .nowhere
  · simp only [Resolution.ofDefault]
    constructor
    · rintro (h | h)
      · rw [← Target.names_iff.mp h]
      · rw [← Target.names_iff.mp h]
    · rintro rfl
      cases hi : t.identity with
      | ok id => exact .resolution (Target.names_iff.mpr hi.symm)
      | error e => exact .refused (Target.names_iff.mpr hi.symm)

/-- The resolvers of all plugins, one plugin after the other, and what becomes of a request.  A
resolver takes a request when its pattern is found in the specifier and its namespace, if it has
one, is that of the request. -/
def Registry.resolverChain (registry : Registry) (fallback : DefaultResolver)
    (q : ResolveRequest) : Chain ResolverHandler Target Resolution where
  handlers := registry.plugins.flatMap fun p => p.resolvers.map fun h => (p.name, h)
  takes h := h.filter.pattern.isFoundIn q.specifier &&
    (h.filter.space == none || h.filter.space == some q.space)
  answer h := h.answer q
  hook := .resolve
  Becomes plugin t := t.Becomes plugin
  Default := q.ByDefault (fallback q).result

theorem Registry.question_resolverChain (registry : Registry) (fallback : DefaultResolver)
    (q : ResolveRequest) : (registry.resolverChain fallback q).question = q.question := by
  rw [Chain.question, ResolveRequest.question, Question.mk.injEq]
  refine ⟨?_, rfl⟩
  funext h
  rw [Filter.accepts, Filter.acceptsSpace, Bool.and_comm]
  cases hn : h.filter.space <;> simp [resolverChain, hn]

/-- The walk of a request along the resolvers. -/
theorem Registry.resolverChain_walk_iff {registry : Registry} {fallback : DefaultResolver}
    {q : ResolveRequest} {called : List (String × ResolverHandler)} {consulted : Bool}
    {x : Except BuildError Resolution} :
    (registry.resolverChain fallback q).Walk called consulted x ↔
      called = q.question.called registry.resolvers ∧
        consulted = (q.question.decision registry.resolvers).isNone ∧
        x = (registry.resolve fallback q).result := by
  have hhandlers : (registry.resolverChain fallback q).handlers = registry.resolvers := rfl
  rw [Chain.walk_iff, question_resolverChain, hhandlers, resolve, result_resolveWith_eq]
  refine and_congr_right fun _ => and_congr_right fun _ => ?_
  rcases q.question.decision registry.resolvers with _ | ⟨plugin, text | t⟩
  · exact ResolveRequest.byDefault_iff
  · exact Iff.rfl
  · exact Target.becomes_iff

/-! ## Loading -/

/-- The module that contents become.  Contents without a kind are a script, and the imports of a
file start from its own directory if no other is given. -/
structure Contents.Becomes (c : Contents) (id : ModuleId) (loadedBy : Option String)
    (m : LoadedModule) : Prop where
  contents_eq : m.contents = c.text
  kind_eq : m.kind = c.kind.getD .js
  directory_eq :
    m.directory = c.directory.or (if id.space = fileSpace then id.asPath.parent? else none)
  pluginData_eq : m.pluginData = c.pluginData
  loadedBy_eq : m.loadedBy = loadedBy

/-- What a module comes to by the answer of the default loader. -/
inductive LoadRequest.ByDefault (q : LoadRequest) :
    Except BuildError (Option Contents) → Except BuildError LoadedModule → Prop where
  | loaded {c : Contents} {m : LoadedModule} (h : c.Becomes q.id none m) :
      ByDefault q (.ok (some c)) (.ok m)
  | unrecognized : ByDefault q (.ok none) (.error (.unrecognized q.id))
  | fails {e : BuildError} : ByDefault q (.error e) (.error e)

theorem Contents.becomes_iff {c : Contents} {id : ModuleId} {loadedBy : Option String}
    {m : LoadedModule} : c.Becomes id loadedBy m ↔ m = LoadedModule.ofContents id c loadedBy := by
  have hfile : (id.isFile = true) = (id.space = fileSpace) := by simp [ModuleId.isFile]
  constructor
  · intro h
    obtain ⟨contents, kind, directory, pluginData, loadedBy'⟩ := m
    obtain ⟨rfl, rfl, rfl, rfl, rfl⟩ := h
    simp only [LoadedModule.ofContents, hfile]
  · rintro rfl
    exact ⟨rfl, rfl, by simp only [LoadedModule.ofContents, hfile], rfl, rfl⟩

theorem LoadRequest.byDefault_iff {fallback : DefaultLoader} {q : LoadRequest}
    {x : Except BuildError LoadedModule} :
    q.ByDefault (fallback q.id) x ↔ x = (loadByDefault fallback q.id).result := by
  rw [loadByDefault, Work.result_bind, Work.result_ofExcept]
  rcases fallback q.id with e | _ | c
  · constructor
    · rintro ⟨⟩
      rfl
    · rintro rfl
      exact .fails
  · constructor
    · rintro ⟨⟩
      rfl
    · rintro rfl
      exact .unrecognized
  · simp only [Except.bind, Work.result_bind, Work.result_tell, Work.result_pure]
    constructor
    · rintro ⟨h⟩
      rw [Contents.becomes_iff.mp h]
    · rintro rfl
      exact .loaded (Contents.becomes_iff.mpr rfl)

/-- The loaders of all plugins, one plugin after the other, and what becomes of a module.  A loader
takes a module when its pattern is found in the path and its namespace, that of files if it has
none, is the module's. -/
def Registry.loaderChain (registry : Registry) (fallback : DefaultLoader) (q : LoadRequest) :
    Chain LoaderHandler Contents LoadedModule where
  handlers := registry.plugins.flatMap fun p => p.loaders.map fun h => (p.name, h)
  takes h := h.filter.pattern.isFoundIn q.id.path && h.filter.space.getD fileSpace == q.id.space
  answer h := h.answer q
  hook := .load
  Becomes plugin c x := ∃ m, c.Becomes q.id (some plugin) m ∧ x = .ok m
  Default := q.ByDefault (fallback q.id)

theorem Registry.question_loaderChain (registry : Registry) (fallback : DefaultLoader)
    (q : LoadRequest) : (registry.loaderChain fallback q).question = q.question := by
  rw [Chain.question, LoadRequest.question, Question.mk.injEq]
  refine ⟨?_, rfl⟩
  funext h
  rw [Filter.accepts, Filter.acceptsSpace, Bool.and_comm]
  cases hn : h.filter.space <;> simp [loaderChain, hn]

/-- The walk of a module along the loaders. -/
theorem Registry.loaderChain_walk_iff {registry : Registry} {fallback : DefaultLoader}
    {q : LoadRequest} {called : List (String × LoaderHandler)} {consulted : Bool}
    {x : Except BuildError LoadedModule} :
    (registry.loaderChain fallback q).Walk called consulted x ↔
      called = q.question.called registry.loaders ∧
        consulted = (q.question.decision registry.loaders).isNone ∧
        x = (registry.load fallback q).result := by
  have hhandlers : (registry.loaderChain fallback q).handlers = registry.loaders := rfl
  rw [Chain.walk_iff, question_loaderChain, hhandlers, load, result_loadWith_eq]
  refine and_congr_right fun _ => and_congr_right fun _ => ?_
  rcases q.question.decision registry.loaders with _ | ⟨plugin, text | c⟩
  · exact LoadRequest.byDefault_iff
  · exact Iff.rfl
  · simp only [loaderChain, Contents.becomes_iff, exists_eq_left]

/-! ## Both chains -/

/-- A request is resolved, and a module is loaded, by its walk along the handlers of the plugins
of a registry.  The journal shows the calls of the walk, and each is made with the request as it
is.  The default is consulted in the walks that say so, and has no part in others. -/
theorem Registry.dispatch_law (registry : Registry) (resolver : DefaultResolver)
    (loader : DefaultLoader) :
    (∀ q : ResolveRequest, ∃ called consulted,
      (∀ called' consulted' x, (registry.resolverChain resolver q).Walk called' consulted' x ↔
        called' = called ∧ consulted' = consulted ∧ x = (registry.resolve resolver q).result) ∧
      (registry.resolve resolver q).calls =
        (called.map fun c => .resolverCalled c.2.mark q) ++
          (if consulted then (resolver q).calls else []) ∧
      (if consulted then (resolver q).notes <:+: (registry.resolve resolver q).notes
        else ∀ resolver', registry.resolve resolver' q = registry.resolve resolver q)) ∧
    ∀ q : LoadRequest, ∃ called consulted,
      (∀ called' consulted' x, (registry.loaderChain loader q).Walk called' consulted' x ↔
        called' = called ∧ consulted' = consulted ∧ x = (registry.load loader q).result) ∧
      (registry.load loader q).calls = (called.map fun c => .loaderCalled c.2.mark q) ∧
      (consulted = false → ∀ loader', registry.load loader' q = registry.load loader q) := by
  constructor
  · intro q
    refine ⟨_, _, fun _ _ _ => resolverChain_walk_iff, calls_resolveWith resolver q _, ?_⟩
    cases hd : q.question.decision registry.resolvers with
    | none =>
      have hprefix := (notes_prefix_resolveByDefault resolver q).isInfix
      exact hprefix.trans (notes_resolveByDefault_suffix hd resolver).isInfix
    | some v =>
      intro resolver'
      exact resolveWith_eq_of_decision (by simp [hd]) resolver' resolver
  · intro q
    refine ⟨_, _, fun _ _ _ => loaderChain_walk_iff, calls_loadWith loader q _, ?_⟩
    intro hc loader'
    refine loadWith_eq_of_decision (fun hd => ?_) loader' loader
    rw [hd] at hc
    cases hc

end BundleGraph
