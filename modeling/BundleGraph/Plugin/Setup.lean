import BundleGraph.Error
import BundleGraph.Plugin.Filter

/-!
# Setting up a plugin

A plugin describes itself in steps: it gives its name, once and first, and then adds
handlers.  A step that fails changes nothing; it ends the setup unless the plugin goes on in
spite of it.

## Main definitions

* `PluginDraft.perform` — one step.
* `PluginDraft.run` — all steps of a setup.
* `PluginDraft.finish?` — the plugin, if it has a name.
-/

namespace BundleGraph

/-- A handler that resolves specifiers. -/
structure ResolverHandler where
  filter : Filter
  /-- What the journal shows when the handler is called. -/
  mark : Option Json
  /-- The answer; none passes the request on, an error has a text. -/
  answer : ResolveRequest → Except String (Option Target)

/-- A handler that loads modules. -/
structure LoaderHandler where
  filter : Filter
  mark : Option Json
  answer : LoadRequest → Except String (Option Contents)

/-- A plugin with its handlers in the order in which it added them. -/
structure Plugin where
  name : String
  resolvers : List ResolverHandler
  loaders : List LoaderHandler

/-- A step of a setup. -/
inductive SetupStep where
  | setName (name : String)
  | addResolver (filter : FilterOptions) (mark : Option Json)
      (answer : ResolveRequest → Except String (Option Target))
  | addLoader (filter : FilterOptions) (mark : Option Json)
      (answer : LoadRequest → Except String (Option Contents))
  | fail (reason : String)

/-- A step, and whether the setup goes on when it fails. -/
structure SetupAction where
  step : SetupStep
  tolerant : Bool := false

/-- How a plugin describes itself. -/
abbrev Setup := List SetupAction

/-- A plugin being set up. -/
structure PluginDraft where
  /-- The number of plugins before it. -/
  index : Nat
  name : Option String := none
  resolvers : List ResolverHandler := []
  loaders : List LoaderHandler := []

/-- What came of a step: the name after it, and whether it worked. -/
structure StepOutcome where
  name : Option String
  result : Except BuildError Unit

/-- What came of a setup: the steps that were made, and the draft or the error that ended it. -/
structure SetupRun where
  steps : List StepOutcome
  result : Except BuildError PluginDraft

namespace PluginDraft

/-- The name errors show for a plugin without one. -/
def unnamedLabel (index : Nat) : String :=
  s!"#{index} (unnamed)"

/-- The name errors show. -/
def label (d : PluginDraft) : String :=
  d.name.getD (unnamedLabel d.index)

/-- Gives the name, which may be done once. -/
def setName (d : PluginDraft) (name : String) : Except BuildError PluginDraft :=
  match d.name with
  | some existing => .error (.setup existing (.renamed name))
  | none =>
    if Text.isBlankText name then .error (.setup d.label .blankName)
    else .ok { d with name := some name }

/-- The filter of a handler to be added, if the plugin has a name. -/
def compileFilter (d : PluginDraft) (early : SetupMistake) (o : FilterOptions) :
    Except BuildError Filter :=
  match d.name with
  | none => .error (.setup d.label early)
  | some name =>
    match Filter.compile? o with
    | some f => .ok f
    | none => .error (.invalidFilter name o.pattern)

def perform (d : PluginDraft) : SetupStep → Except BuildError PluginDraft
  | .setName name => d.setName name
  | .addResolver o mark answer =>
    (d.compileFilter .resolverBeforeName o).map fun filter =>
      { d with resolvers := d.resolvers ++ [⟨filter, mark, answer⟩] }
  | .addLoader o mark answer =>
    (d.compileFilter .loaderBeforeName o).map fun filter =>
      { d with loaders := d.loaders ++ [⟨filter, mark, answer⟩] }
  | .fail reason => .error (.options (.other reason))

/-- Makes the steps of a setup, up to the first failure that is not tolerated. -/
def run (d : PluginDraft) : Setup → SetupRun
  | [] => ⟨[], .ok d⟩
  | a :: as =>
    match d.perform a.step with
    | .ok d =>
      let r := run d as
      { r with steps := ⟨d.name, .ok ()⟩ :: r.steps }
    | .error e =>
      if a.tolerant then
        let r := run d as
        { r with steps := ⟨d.name, .error e⟩ :: r.steps }
      else ⟨[⟨d.name, .error e⟩], .error e⟩

/-- The plugin, if it has a name. -/
def finish (d : PluginDraft) : Except BuildError Plugin :=
  match d.name with
  | some name => .ok ⟨name, d.resolvers, d.loaders⟩
  | none => .error (.setup (unnamedLabel d.index) .unnamed)

end PluginDraft

end BundleGraph
