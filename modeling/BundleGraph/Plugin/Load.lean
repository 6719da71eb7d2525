import BundleGraph.Plugin.Registry

/-!
# Loading a module

The loaders of all plugins are asked in order, as far as their filters accept the module;
a filter without a namespace accepts files only.  The first that does not pass the request
on decides; if all pass, the default loader does.

## Main definitions

* `loadWith` — the walk over handlers.
* `Registry.load` — the walk over the handlers of a registry.
-/

namespace BundleGraph

/-- What a module was loaded as. -/
structure LoadedModule where
  contents : String
  kind : ContentKind
  /-- The directory that the relative specifiers of the module start from. -/
  directory : Option Path
  /-- Data for the resolvers of the module's imports. -/
  pluginData : Option Json
  /-- The plugin that decided; none for the default loader. -/
  loadedBy : Option String
  deriving DecidableEq, Repr

/-- What is asked when no plugin decides; none means that the contents are not known. -/
abbrev DefaultLoader := ModuleId → Except BuildError (Option Contents)

/-- The loaded module for contents.  The imports of a file start from its own directory, and
contents without a kind are a script. -/
def LoadedModule.ofContents (id : ModuleId) (c : Contents) (loadedBy : Option String) :
    LoadedModule where
  contents := c.text
  kind := c.kind.getD .js
  directory := c.directory.or (if id.isFile then id.asPath.parent? else none)
  pluginData := c.pluginData
  loadedBy := loadedBy

def loadByDefault (fallback : DefaultLoader) (id : ModuleId) : Work LoadedModule := do
  match ← Work.ofExcept (fallback id) with
  | some c =>
    Work.tell (.defaultLoaderUsed id)
    return LoadedModule.ofContents id c none
  | none => Work.fail (.unrecognized id)

/-- Asks handlers in order and then the default loader. -/
def loadWith (fallback : DefaultLoader) (q : LoadRequest) :
    List (String × LoaderHandler) → Work LoadedModule
  | [] => loadByDefault fallback q.id
  | (plugin, h) :: hs =>
    if h.filter.accepts q.id.path q.id.space (some fileSpace) then do
      Work.note (.loaderCalled h.mark q)
      match h.answer q with
      | .error text => Work.fail (.hookFailed plugin .load (.callback text))
      | .ok none => loadWith fallback q hs
      | .ok (some c) =>
        Work.tell (.loaderMatched plugin q.id)
        return LoadedModule.ofContents q.id c (some plugin)
    else do
      Work.tell (.loaderSkipped plugin h.filter.pattern.source q.id)
      loadWith fallback q hs

/-- Loads a module with the plugins of a registry. -/
def Registry.load (r : Registry) (fallback : DefaultLoader) (q : LoadRequest) :
    Work LoadedModule :=
  loadWith fallback q r.loaders

end BundleGraph
