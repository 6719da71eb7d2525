import BundleGraph.Proofs.Plugin.Dispatch
import Mathlib.Data.List.Forall2

/-!
# Plugins that do not show

Of the plugins of a registry, the walks see the handlers and the names they go by, one plugin
after the other.  A plugin whose handlers never fail and never decide is not seen at all, and two
plugins of one name are seen as one plugin with the handlers of both.

A setup describes the same plugin wherever it is registered: the number of plugins before it is
shown in errors and nowhere else.

## Main definitions

* `Setup.Describes` — the plugin of a setup; `Registry.ofSetups_ok_iff` gives that of a list.
* `Plugin.Silent` — the plugin never fails and never decides.
* `Plugin.SplitsInto` — two plugins share the name and the handlers of a third.
* `Registry.SameVerdicts` — two registries decide every question alike.
* `Registry.SetUpAlike` — two lists of setups give such registries.
-/

namespace BundleGraph

/-! ## Setups and the place where they are registered -/

theorem toOption_map {α β : Type} (x : Except BuildError α) (f : α → β) :
    (x.map f).toOption = x.toOption.map f := by
  cases x <;> rfl

theorem toOption_eq_some_iff {α : Type} {x : Except BuildError α} {a : α} :
    x.toOption = some a ↔ x = .ok a := by
  cases x <;> simp [Except.toOption]

/-- The draft with another number of plugins before it. -/
def PluginDraft.withIndex (d : PluginDraft) (n : ℕ) : PluginDraft :=
  { d with index := n }

namespace PluginDraft

variable (d : PluginDraft) (n : ℕ)

theorem setName_withIndex (name : String) :
    ((d.withIndex n).setName name).toOption =
      (d.setName name).toOption.map (withIndex · n) := by
  obtain ⟨index, _ | existing, resolvers, loaders⟩ := d
  · simp only [setName, withIndex]
    split <;> rfl
  · rfl

theorem compileFilter_withIndex (early : SetupMistake) (o : FilterOptions) :
    ((d.withIndex n).compileFilter early o).toOption =
      (d.compileFilter early o).toOption := by
  obtain ⟨index, _ | existing, resolvers, loaders⟩ := d <;> rfl

/-- The number of plugins before it shows in the error of a step alone. -/
theorem perform_withIndex (step : SetupStep) :
    ((d.withIndex n).perform step).toOption =
      (d.perform step).toOption.map (withIndex · n) := by
  cases step with
  | setName name => exact setName_withIndex d n name
  | addResolver o mark answer =>
    rw [perform, perform, toOption_map, toOption_map, compileFilter_withIndex, Option.map_map]
    rfl
  | addLoader o mark answer =>
    rw [perform, perform, toOption_map, toOption_map, compileFilter_withIndex, Option.map_map]
    rfl
  | fail reason => rfl

theorem run_withIndex (s : Setup) :
    ((d.withIndex n).run s).result.toOption = (d.run s).result.toOption.map (withIndex · n) := by
  induction s generalizing d with
  | nil => rfl
  | cons a as ih =>
    have hstep := perform_withIndex d n a.step
    cases hd : d.perform a.step with
    | ok d' =>
      rw [hd] at hstep
      rw [run, run, hd, toOption_eq_some_iff.mp hstep]
      exact ih d'
    | error e =>
      rw [hd] at hstep
      cases hn : (d.withIndex n).perform a.step with
      | ok d' => rw [hn] at hstep; cases hstep
      | error e' =>
        rw [run, run, hd, hn]
        by_cases ha : a.tolerant = true
        · simpa only [ha, if_true] using ih d
        · simp only [ha]
          rfl

theorem finish_withIndex : (d.withIndex n).finish.toOption = d.finish.toOption := by
  obtain ⟨index, _ | name, resolvers, loaders⟩ := d <;> rfl

end PluginDraft

/-- The plugin that a setup describes when it is registered first. -/
def Setup.Describes (s : Setup) (p : Plugin) : Prop :=
  ({} : Registry).pluginOf s = .ok p

/-- A setup describes the same plugin wherever it is registered. -/
theorem Setup.describes_iff {s : Setup} {p : Plugin} (registry : Registry) :
    s.Describes p ↔ registry.pluginOf s = .ok p := by
  have hplugin : ∀ r : Registry, (r.pluginOf s).toOption =
      (r.runSetup s).result.toOption.bind fun d => d.finish.toOption := by
    intro r
    rw [Registry.pluginOf]
    cases (r.runSetup s).result <;> rfl
  have hrun : (registry.runSetup s).result.toOption =
      (({} : Registry).runSetup s).result.toOption.map (·.withIndex registry.size) :=
    PluginDraft.run_withIndex { index := 0 } registry.size s
  rw [Describes, ← toOption_eq_some_iff, ← toOption_eq_some_iff, hplugin, hplugin, hrun,
    Option.bind_map]
  simp only [Function.comp_def, PluginDraft.finish_withIndex]

namespace Registry

theorem result_register (registry : Registry) (s : Setup) :
    (registry.register s).result =
      (registry.pluginOf s).map fun p => ⟨registry.plugins ++ [p]⟩ := by
  rw [register, Work.result_bind, Work.result_ofExcept]
  cases registry.pluginOf s <;> rfl

/-- All setups of a list succeed when each describes a plugin, and they register those. -/
theorem registerAll_ok_iff {registry r : Registry} {ss : List Setup} :
    (registry.registerAll ss).result = .ok r ↔
      ∃ ps, List.Forall₂ Setup.Describes ss ps ∧ r = ⟨registry.plugins ++ ps⟩ := by
  induction ss generalizing registry with
  | nil =>
    simp only [registerAll, Work.result_pure, List.forall₂_nil_left_iff, exists_eq_left,
      List.append_nil, Except.ok.injEq, eq_comm]
  | cons s ss ih =>
    rw [registerAll, Work.result_bind, result_register]
    constructor
    · intro h
      cases hp : registry.pluginOf s with
      | error e => rw [hp] at h; cases h
      | ok p =>
        rw [hp] at h
        obtain ⟨ps, hps, rfl⟩ := ih.mp h
        refine ⟨p :: ps, .cons ((Setup.describes_iff registry).mpr hp) hps, ?_⟩
        rw [List.append_assoc, List.singleton_append]
    · rintro ⟨_, hall, rfl⟩
      obtain ⟨p, ps, hp, hps, rfl⟩ := List.forall₂_cons_left_iff.mp hall
      rw [(Setup.describes_iff registry).mp hp]
      refine ih.mpr ⟨ps, hps, ?_⟩
      rw [List.append_assoc, List.singleton_append]

theorem ofSetups_ok_iff {registry : Registry} {ss : List Setup} :
    (ofSetups ss).result = .ok registry ↔ List.Forall₂ Setup.Describes ss registry.plugins := by
  rw [ofSetups, registerAll_ok_iff]
  constructor
  · rintro ⟨ps, hps, rfl⟩
    exact hps
  · intro h
    exact ⟨registry.plugins, h, rfl⟩

end Registry

/-- The setups before and after a place, and more of them there, register the plugins before and
after it, and those of the others there. -/
theorem Registry.ofSetups_insert {before mid after : List Setup} {ps qs rs : List Plugin}
    (hbefore : List.Forall₂ Setup.Describes before ps)
    (hmid : List.Forall₂ Setup.Describes mid qs)
    (hafter : List.Forall₂ Setup.Describes after rs) :
    (ofSetups (before ++ mid ++ after)).result = .ok ⟨ps ++ qs ++ rs⟩ :=
  ofSetups_ok_iff.mpr (List.rel_append (List.rel_append hbefore hmid) hafter)

/-! ## Plugins that are not seen -/

/-- Every handler of the plugin rejects or passes on whatever it could be asked. -/
structure Plugin.Silent (p : Plugin) : Prop where
  resolvers : ∀ h ∈ p.resolvers, ∀ q : ResolveRequest,
    h.filter.accepts q.specifier q.space none = false ∨ h.answer q = .ok none
  loaders : ∀ h ∈ p.loaders, ∀ q : LoadRequest,
    h.filter.accepts q.id.path q.id.space (some fileSpace) = false ∨ h.answer q = .ok none

/-- Two plugins have the name of a third and, one after the other, its handlers. -/
structure Plugin.SplitsInto (p p₁ p₂ : Plugin) : Prop where
  name₁ : p₁.name = p.name
  name₂ : p₂.name = p.name
  resolvers : p.resolvers = p₁.resolvers ++ p₂.resolvers
  loaders : p.loaders = p₁.loaders ++ p₂.loaders

namespace Registry

/-- Two registries decide every question alike, and in the name of the same plugin. -/
structure SameVerdicts (registry registry' : Registry) : Prop where
  resolve_eq : ∀ q : ResolveRequest,
    q.question.decision registry'.resolvers = q.question.decision registry.resolvers
  load_eq : ∀ q : LoadRequest,
    q.question.decision registry'.loaders = q.question.decision registry.loaders

/-- The handlers in their order, under the names of their plugins, are all that counts. -/
theorem SameVerdicts.of_handlers {registry registry' : Registry}
    (hresolvers : registry'.resolvers = registry.resolvers)
    (hloaders : registry'.loaders = registry.loaders) : registry.SameVerdicts registry' where
  resolve_eq q := by rw [hresolvers]
  load_eq q := by rw [hloaders]

theorem SameVerdicts.symm {registry registry' : Registry} (h : registry.SameVerdicts registry') :
    registry'.SameVerdicts registry where
  resolve_eq q := (h.resolve_eq q).symm
  load_eq q := (h.load_eq q).symm

section
variable {H α : Type} {k : Question H α} {handlers : Plugin → List H} {p p₁ p₂ : Plugin}

/-- A handler that rejects the question or passes it on gives no verdict. -/
theorem verdict?_eq_none_of_passed {h : H} (hh : k.accepts h = false ∨ k.answer h = .ok none) :
    k.verdict? h = none := by
  refine Question.verdict?_eq_none_iff.mpr fun ha => ?_
  rcases hh with hreject | hpass
  · rw [ha] at hreject
    cases hreject
  · exact hpass

/-- A plugin none of whose handlers gives a verdict may be left out. -/
theorem decision_insert (h : ∀ c ∈ handlers p, k.verdict? c = none) (ps qs : List Plugin) :
    k.decision ((ps ++ [p] ++ qs).flatMap fun p => (handlers p).map (p.name, ·)) =
      k.decision ((ps ++ qs).flatMap fun p => (handlers p).map (p.name, ·)) := by
  have hp : k.decision ((handlers p).map (p.name, ·)) = none := by
    rw [Question.decision_eq_none_iff]
    intro c hc
    obtain ⟨a, ha, rfl⟩ := List.mem_map.mp hc
    exact h a ha
  simp only [List.flatMap_append, List.flatMap_singleton, Question.decision_append, hp,
    Option.or_none]

/-- Two plugins of one name have the handlers of one plugin. -/
theorem flatMap_split (hname₁ : p₁.name = p.name) (hname₂ : p₂.name = p.name)
    (h : handlers p = handlers p₁ ++ handlers p₂) (ps qs : List Plugin) :
    ((ps ++ [p₁, p₂] ++ qs).flatMap fun p => (handlers p).map (p.name, ·)) =
      (ps ++ [p] ++ qs).flatMap fun p => (handlers p).map (p.name, ·) := by
  simp only [List.flatMap_append, List.flatMap_cons, List.flatMap_nil, List.append_nil, hname₁,
    hname₂, h, List.map_append]

end

variable {p p₁ p₂ : Plugin}

/-- A silent plugin changes no verdict. -/
theorem sameVerdicts_insert (hp : p.Silent) (ps qs : List Plugin) :
    SameVerdicts ⟨ps ++ qs⟩ ⟨ps ++ [p] ++ qs⟩ where
  resolve_eq q :=
    decision_insert (fun c hc => verdict?_eq_none_of_passed (hp.resolvers c hc q)) ps qs
  load_eq q :=
    decision_insert (fun c hc => verdict?_eq_none_of_passed (hp.loaders c hc q)) ps qs

/-- To split a plugin changes no verdict. -/
theorem sameVerdicts_split (h : p.SplitsInto p₁ p₂) (ps qs : List Plugin) :
    SameVerdicts ⟨ps ++ [p] ++ qs⟩ ⟨ps ++ [p₁, p₂] ++ qs⟩ :=
  .of_handlers (flatMap_split h.name₁ h.name₂ h.resolvers ps qs)
    (flatMap_split h.name₁ h.name₂ h.loaders ps qs)

/-- Both lists of setups succeed, and what they register decides every question alike. -/
def SetUpAlike (setups setups' : List Setup) : Prop :=
  ∃ registry registry', (ofSetups setups).result = .ok registry ∧
    (ofSetups setups').result = .ok registry' ∧ registry.SameVerdicts registry'

theorem SetUpAlike.symm {setups setups' : List Setup} (h : SetUpAlike setups setups') :
    SetUpAlike setups' setups := by
  obtain ⟨registry, registry', hr, hr', hsame⟩ := h
  exact ⟨registry', registry, hr', hr, hsame.symm⟩

section
variable {before after : List Setup} {registry : Registry}
  (hr : (ofSetups (before ++ after)).result = .ok registry)
include hr

/-- When the setups of a list succeed, they do so on both sides of a place. -/
theorem exists_describes :
    ∃ ps qs, List.Forall₂ Setup.Describes before ps ∧ List.Forall₂ Setup.Describes after qs := by
  have hall := ofSetups_ok_iff.mp hr
  have hbefore := List.forall₂_take before.length hall
  have hafter := List.forall₂_drop before.length hall
  rw [List.take_left] at hbefore
  rw [List.drop_left] at hafter
  exact ⟨_, _, hbefore, hafter⟩

/-- To register a silent plugin somewhere changes no verdict. -/
theorem setUpAlike_insert {s : Setup} {p : Plugin} (hs : s.Describes p) (hp : p.Silent) :
    SetUpAlike (before ++ after) (before ++ [s] ++ after) := by
  obtain ⟨ps, qs, hbefore, hafter⟩ := exists_describes hr
  have hnone := ofSetups_insert hbefore .nil hafter
  rw [List.append_nil, List.append_nil] at hnone
  exact ⟨_, _, hnone, ofSetups_insert hbefore (.cons hs .nil) hafter,
    sameVerdicts_insert hp ps qs⟩

/-- To register a plugin in two pieces changes no verdict. -/
theorem setUpAlike_split {s s₁ s₂ : Setup} {p p₁ p₂ : Plugin} (hs : s.Describes p)
    (hs₁ : s₁.Describes p₁) (hs₂ : s₂.Describes p₂) (h : p.SplitsInto p₁ p₂) :
    SetUpAlike (before ++ [s] ++ after) (before ++ [s₁, s₂] ++ after) := by
  obtain ⟨ps, qs, hbefore, hafter⟩ := exists_describes hr
  exact ⟨_, _, ofSetups_insert hbefore (.cons hs .nil) hafter,
    ofSetups_insert hbefore (.cons hs₁ (.cons hs₂ .nil)) hafter, sameVerdicts_split h ps qs⟩

end

end Registry

end BundleGraph
