import BundleGraph.Plugin.Registry

/-!
# Resolving a specifier

The resolvers of all plugins are asked in order, as far as their filters accept the
request.  The first that does not pass the request on decides; if all pass, the default
resolver does.

## Main definitions

* `resolveWith` — the walk over handlers.
* `Registry.resolve` — the walk over the handlers of a registry.
-/

namespace BundleGraph

/-- The final answer to a request. -/
structure Resolution where
  id : ModuleId
  external : Bool
  /-- Data for the loader of the module. -/
  pluginData : Option Json
  /-- The plugin that decided; none for the default resolver. -/
  resolvedBy : Option String
  deriving DecidableEq, Repr

/-- What is asked when no plugin decides; none means that the specifier leads nowhere. -/
abbrev DefaultResolver := ResolveRequest → Work (Option Target)

/-- The identity that a target names. -/
def Target.identity (t : Target) : Except IdentityError ModuleId :=
  ModuleId.create t.path (t.space.getD fileSpace)

/-- The resolution that a plugin's target stands for. -/
def Resolution.ofPlugin (plugin : String) (t : Target) : Except BuildError Resolution :=
  if t.path.isEmpty then .error (.hookFailed plugin .resolve .emptyPath)
  else
    match t.identity with
    | .ok id => .ok ⟨id, t.external, t.pluginData, some plugin⟩
    | .error e => .error (.hookFailed plugin .resolve (.identity e))

/-- The resolution that a target of the default resolver stands for. -/
def Resolution.ofDefault (t : Target) : Except BuildError Resolution :=
  match t.identity with
  | .ok id => .ok ⟨id, t.external, t.pluginData, none⟩
  | .error e => .error (.graph (.identity e))

/-- The error of a request that nothing answers. -/
def ResolveRequest.unresolved (q : ResolveRequest) : BuildError :=
  .unresolved q.specifier (q.importer.map ModuleId.display)

def resolveByDefault (fallback : DefaultResolver) (q : ResolveRequest) : Work Resolution := do
  match ← fallback q with
  | some t =>
    let r ← Work.ofExcept (Resolution.ofDefault t)
    Work.tell (.defaultResolverUsed q.specifier r.id)
    return r
  | none => Work.fail q.unresolved

/-- Asks handlers in order and then the default resolver. -/
def resolveWith (fallback : DefaultResolver) (q : ResolveRequest) :
    List (String × ResolverHandler) → Work Resolution
  | [] => resolveByDefault fallback q
  | (plugin, h) :: hs =>
    if h.filter.accepts q.specifier q.space none then do
      Work.note (.resolverCalled h.mark q)
      match h.answer q with
      | .error text => Work.fail (.hookFailed plugin .resolve (.callback text))
      | .ok none => resolveWith fallback q hs
      | .ok (some t) =>
        let r ← Work.ofExcept (Resolution.ofPlugin plugin t)
        Work.tell (.resolverMatched plugin q.specifier r.id)
        return r
    else do
      Work.tell (.resolverSkipped plugin h.filter.pattern.source q.specifier)
      resolveWith fallback q hs

/-- The first handler decides if its filter accepts the request and it does not pass it on. -/
theorem result_resolveWith {fallback : DefaultResolver} {q : ResolveRequest} {plugin : String}
    {h : ResolverHandler} {hs : List (String × ResolverHandler)} {t : Target}
    (hf : h.filter.accepts q.specifier q.space none = true) (ha : h.answer q = .ok (some t)) :
    (resolveWith fallback q ((plugin, h) :: hs)).result = Resolution.ofPlugin plugin t := by
  rw [resolveWith, if_pos hf, ha]
  simp only [Work.result_bind, Work.result_note, Work.result_ofExcept, Work.result_tell,
    Work.result_pure, Except.bind]
  cases Resolution.ofPlugin plugin t with
  | ok r => rfl
  | error e => rfl

/-- Resolves a request with the plugins of a registry. -/
def Registry.resolve (r : Registry) (fallback : DefaultResolver) (q : ResolveRequest) :
    Work Resolution :=
  resolveWith fallback q r.resolvers

end BundleGraph
