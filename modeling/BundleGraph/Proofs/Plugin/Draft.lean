import BundleGraph.Plugin.Setup
import Mathlib.Data.List.Basic

/-!
# What the steps of a setup say

A draft without a name takes a name and nothing else; a draft with a name takes handlers and
nothing else.  Whatever a draft does not take is an error, and leaves it as it was.  So the steps
of a setup say by themselves what comes of it: the first name that is not blank, and the handlers
after it whose patterns compile.

## Main definitions

* `PluginDraft.Takes` — what a step that succeeds does to a draft.
* `PluginDraft.run_induction` — what every such step keeps, a run keeps.
* `Setup.SpellsOut` — the plugin that the steps of a setup say.
* `PluginDraft.run_unnamed_iff`, `PluginDraft.run_named_iff` — where a run ends before the name,
  and after it.
-/

namespace BundleGraph

namespace SetupStep

/-- The name that a step gives, unless it is blank. -/
def name? : SetupStep → Option String
  | .setName name => if Text.isBlankText name then none else some name
  | _ => none

/-- The resolver that a step adds, if its pattern compiles. -/
def resolver? : SetupStep → Option ResolverHandler
  | .addResolver o mark answer => (Filter.compile? o).map fun filter => ⟨filter, mark, answer⟩
  | _ => none

/-- The loader that a step adds, if its pattern compiles. -/
def loader? : SetupStep → Option LoaderHandler
  | .addLoader o mark answer => (Filter.compile? o).map fun filter => ⟨filter, mark, answer⟩
  | _ => none

variable {step : SetupStep}

theorem name?_eq_some {name : String} (h : step.name? = some name) :
    step = .setName name ∧ Text.isBlankText name = false := by
  cases step with
  | setName given =>
    rw [name?] at h
    split at h
    · cases h
    · rename_i hblank
      cases h
      exact ⟨rfl, Bool.eq_false_iff.mpr hblank⟩
  | addResolver o mark answer => cases h
  | addLoader o mark answer => cases h
  | fail reason => cases h

theorem resolver?_eq_some {handler : ResolverHandler} (h : step.resolver? = some handler) :
    ∃ o, step = .addResolver o handler.mark handler.answer ∧
      Filter.compile? o = some handler.filter := by
  cases step with
  | addResolver o mark answer =>
    obtain ⟨f, hf, rfl⟩ := Option.map_eq_some_iff.mp h
    exact ⟨o, rfl, hf⟩
  | setName name => cases h
  | addLoader o mark answer => cases h
  | fail reason => cases h

theorem loader?_eq_some {handler : LoaderHandler} (h : step.loader? = some handler) :
    ∃ o, step = .addLoader o handler.mark handler.answer ∧
      Filter.compile? o = some handler.filter := by
  cases step with
  | addLoader o mark answer =>
    obtain ⟨f, hf, rfl⟩ := Option.map_eq_some_iff.mp h
    exact ⟨o, rfl, hf⟩
  | setName name => cases h
  | addResolver o mark answer => cases h
  | fail reason => cases h

/-- A step that adds a resolver adds no loader. -/
theorem loader?_of_resolver? {handler : ResolverHandler} (h : step.resolver? = some handler) :
    step.loader? = none := by
  obtain ⟨o, rfl, -⟩ := resolver?_eq_some h
  rfl

/-- A step that adds a loader adds no resolver. -/
theorem resolver?_of_loader? {handler : LoaderHandler} (h : step.loader? = some handler) :
    step.resolver? = none := by
  obtain ⟨o, rfl, -⟩ := loader?_eq_some h
  rfl

end SetupStep

/-! ## One step -/

namespace PluginDraft

variable {d d' : PluginDraft} {step : SetupStep} {s : Setup} {name : String} {e : BuildError}

/-- What a step that succeeds does to a draft: it names it, or adds a handler to one that is
named. -/
inductive Takes (d : PluginDraft) (step : SetupStep) : PluginDraft → Prop where
  | name {name : String} (hd : d.name = none) (h : step.name? = some name) :
    Takes d step { d with name := some name }
  | resolver {name : String} {handler : ResolverHandler} (hd : d.name = some name)
      (h : step.resolver? = some handler) :
    Takes d step { d with resolvers := d.resolvers ++ [handler] }
  | loader {name : String} {handler : LoaderHandler} (hd : d.name = some name)
      (h : step.loader? = some handler) :
    Takes d step { d with loaders := d.loaders ++ [handler] }

theorem compileFilter_eq_ok_iff {early : SetupMistake} {o : FilterOptions} {f : Filter} :
    d.compileFilter early o = .ok f ↔
      (∃ name, d.name = some name) ∧ Filter.compile? o = some f := by
  rw [compileFilter]
  cases d.name with
  | none => simp
  | some name => cases Filter.compile? o <;> simp

theorem map_eq_ok_iff {α β : Type} {x : Except BuildError α} {f : α → β} {b : β} :
    x.map f = .ok b ↔ ∃ a, x = .ok a ∧ f a = b := by
  cases x <;> simp [Except.map]

/-- A step succeeds when the draft takes it. -/
theorem perform_eq_ok_iff : d.perform step = .ok d' ↔ d.Takes step d' := by
  constructor
  · intro h
    cases step with
    | setName name =>
      rw [perform, setName] at h
      split at h
      · cases h
      · rename_i hd
        split at h
        · cases h
        · rename_i hblank
          cases h
          exact .name hd (if_neg hblank)
    | addResolver o mark answer =>
      obtain ⟨f, hf, rfl⟩ := map_eq_ok_iff.mp h
      obtain ⟨⟨name, hd⟩, hf⟩ := compileFilter_eq_ok_iff.mp hf
      exact .resolver hd (by rw [SetupStep.resolver?, hf]; rfl)
    | addLoader o mark answer =>
      obtain ⟨f, hf, rfl⟩ := map_eq_ok_iff.mp h
      obtain ⟨⟨name, hd⟩, hf⟩ := compileFilter_eq_ok_iff.mp hf
      exact .loader hd (by rw [SetupStep.loader?, hf]; rfl)
    | fail reason => cases h
  · intro h
    cases h with
    | name hd h =>
      obtain ⟨rfl, hblank⟩ := SetupStep.name?_eq_some h
      rw [perform, setName, hd]
      exact if_neg (Bool.eq_false_iff.mp hblank)
    | resolver hd h =>
      obtain ⟨o, rfl, hf⟩ := SetupStep.resolver?_eq_some h
      exact map_eq_ok_iff.mpr ⟨_, compileFilter_eq_ok_iff.mpr ⟨⟨_, hd⟩, hf⟩, rfl⟩
    | loader hd h =>
      obtain ⟨o, rfl, hf⟩ := SetupStep.loader?_eq_some h
      exact map_eq_ok_iff.mpr ⟨_, compileFilter_eq_ok_iff.mpr ⟨⟨_, hd⟩, hf⟩, rfl⟩

theorem not_takes_of_error (h : d.perform step = .error e) : ¬ d.Takes step d' := by
  intro htakes
  rw [perform_eq_ok_iff.mpr htakes] at h
  cases h

/-- A step that fails on a draft without a name gives none. -/
theorem name?_of_error (hd : d.name = none) (h : d.perform step = .error e) :
    step.name? = none :=
  Option.eq_none_iff_forall_ne_some.mpr fun _ hname => not_takes_of_error h (.name hd hname)

/-- A step that fails on a draft with a name adds no handler. -/
theorem handlers?_of_error (hd : d.name = some name) (h : d.perform step = .error e) :
    step.resolver? = none ∧ step.loader? = none := by
  constructor
  · exact Option.eq_none_iff_forall_ne_some.mpr fun _ hr => not_takes_of_error h (.resolver hd hr)
  · exact Option.eq_none_iff_forall_ne_some.mpr fun _ hl => not_takes_of_error h (.loader hd hl)

/-- The error of a draft without a name shows its number, unless the step brought the error. -/
theorem perform_error_of_unnamed (hd : d.name = none) (h : d.perform step = .error e) :
    (∃ reason, step = .fail reason ∧ e = .options (.other reason)) ∨
      ∃ mistake, e = .setup (unnamedLabel d.index) mistake := by
  have hlabel : d.label = unnamedLabel d.index := by rw [label, hd, Option.getD_none]
  cases step with
  | setName name =>
    rw [perform, setName, hd] at h
    simp only at h
    split at h
    · cases h
      exact .inr ⟨_, congrArg (BuildError.setup · _) hlabel⟩
    · cases h
  | addResolver o mark answer =>
    rw [perform, compileFilter, hd] at h
    cases h
    exact .inr ⟨_, congrArg (BuildError.setup · _) hlabel⟩
  | addLoader o mark answer =>
    rw [perform, compileFilter, hd] at h
    cases h
    exact .inr ⟨_, congrArg (BuildError.setup · _) hlabel⟩
  | fail reason =>
    cases h
    exact .inl ⟨reason, rfl, rfl⟩

/-! ## A run of steps -/

theorem run_cons_ok {a : SetupAction} (h : d.perform a.step = .ok d') :
    (d.run (a :: s)).result = (d'.run s).result := by
  rw [run, h]

theorem run_cons_error {a : SetupAction} (h : d.perform a.step = .error e) :
    (d.run (a :: s)).result = if a.tolerant then (d.run s).result else .error e := by
  rw [run, h]
  by_cases ha : a.tolerant = true
  · simp only [ha, if_true]
  · simp only [ha]
    rfl

theorem run_append (s s' : Setup) :
    (d.run (s ++ s')).result = (d.run s).result.bind fun d' => (d'.run s').result := by
  induction s generalizing d with
  | nil => rfl
  | cons a s ih =>
    rw [List.cons_append]
    cases h : d.perform a.step with
    | ok d' => rw [run_cons_ok h, run_cons_ok h, ih]
    | error e =>
      rw [run_cons_error h, run_cons_error h, ih]
      split <;> rfl

/-- What every step keeps that succeeds, a run keeps. -/
theorem run_induction {P : PluginDraft → Prop}
    (hstep : ∀ d step d', P d → Takes d step d' → P d') (hd : P d)
    (h : (d.run s).result = .ok d') : P d' := by
  induction s generalizing d with
  | nil =>
    cases h
    exact hd
  | cons a s ih =>
    cases hp : d.perform a.step with
    | ok d₁ =>
      rw [run_cons_ok hp] at h
      exact ih (hstep d a.step d₁ hd (perform_eq_ok_iff.mp hp)) h
    | error e =>
      rw [run_cons_error hp] at h
      split at h
      · exact ih hd h
      · cases h

/-- Without a name there are no handlers. -/
theorem run_unnamed_handlers (h : (d.run s).result = .ok d')
    (hd : d.name = none → d.resolvers = [] ∧ d.loaders = []) :
    d'.name = none → d'.resolvers = [] ∧ d'.loaders = [] := by
  refine run_induction (P := fun d => d.name = none → d.resolvers = [] ∧ d.loaders = []) ?_ hd h
  intro d step d' _ htakes hnone
  cases htakes with
  | name => cases hnone
  | resolver hname => cases hname.symm.trans hnone
  | loader hname => cases hname.symm.trans hnone

/-- A name stays. -/
theorem run_name (h : (d.run s).result = .ok d') (hd : d.name = some name) :
    d'.name = some name := by
  refine run_induction (P := fun d => d.name = some name) ?_ hd h
  intro d step d' hname htakes
  cases htakes with
  | name hnone => cases hname.symm.trans hnone
  | resolver => exact hname
  | loader => exact hname

end PluginDraft

/-! ## What the steps of a setup say -/

/-- A step that may stand after the name: it adds a handler, or the setup goes on without. -/
def SetupAction.Fits (a : SetupAction) : Prop :=
  a.tolerant = true ∨ a.step.resolver?.isSome = true ∨ a.step.loader?.isSome = true

/-- No step gives a name, and the setup goes on in spite of each. -/
def Setup.Waits (s : Setup) : Prop :=
  ∀ a ∈ s, a.step.name? = none ∧ a.tolerant = true

/-- The plugin has the first name that the steps of a setup give, and the handlers after it.  All
other steps fail, and the setup goes on in spite of them. -/
def Setup.SpellsOut (s : Setup) (p : Plugin) : Prop :=
  ∃ before a later, s = before ++ a :: later ∧ Setup.Waits before ∧
    a.step.name? = some p.name ∧ (∀ b ∈ later, b.Fits) ∧
    p.resolvers = later.filterMap (fun b => b.step.resolver?) ∧
    p.loaders = later.filterMap fun b => b.step.loader?

namespace PluginDraft

variable {d d' : PluginDraft} {s : Setup} {name : String}

/-- A draft with a name takes the handlers whose patterns compile, and nothing else. -/
theorem run_named_iff (hd : d.name = some name) :
    (d.run s).result = .ok d' ↔ (∀ a ∈ s, a.Fits) ∧ d' = { d with
      resolvers := d.resolvers ++ s.filterMap (fun a => a.step.resolver?)
      loaders := d.loaders ++ s.filterMap fun a => a.step.loader? } := by
  induction s generalizing d with
  | nil => simp [run, eq_comm]
  | cons a s ih =>
    rw [List.forall_mem_cons]
    cases hp : d.perform a.step with
    | ok d₁ =>
      rw [run_cons_ok hp]
      cases perform_eq_ok_iff.mp hp with
      | name hnone => cases hd.symm.trans hnone
      | @resolver _ handler _ hr =>
        have hl : a.step.loader? = none := SetupStep.loader?_of_resolver? hr
        have hfits : a.Fits := .inr (.inl (by rw [hr]; rfl))
        rw [ih (d := { d with resolvers := d.resolvers ++ [handler] }) hd]
        simp [hr, hl, hfits]
      | @loader _ handler _ hl =>
        have hr : a.step.resolver? = none := SetupStep.resolver?_of_loader? hl
        have hfits : a.Fits := .inr (.inr (by rw [hl]; rfl))
        rw [ih (d := { d with loaders := d.loaders ++ [handler] }) hd]
        simp [hr, hl, hfits]
    | error e =>
      obtain ⟨hr, hl⟩ := handlers?_of_error hd hp
      rw [run_cons_error hp]
      by_cases ha : a.tolerant = true
      · have hfits : a.Fits := .inl ha
        rw [if_pos ha, ih hd]
        simp [hr, hl, hfits]
      · have hfits : ¬ a.Fits := by simp [SetupAction.Fits, ha, hr, hl]
        rw [if_neg ha]
        simp [hfits]

/-- A draft without a name takes a name only. -/
theorem perform_error_of_name? (hd : d.name = none) {step : SetupStep} (h : step.name? = none) :
    ∃ e, d.perform step = .error e := by
  cases hp : d.perform step with
  | error e => exact ⟨e, rfl⟩
  | ok d' =>
    cases perform_eq_ok_iff.mp hp with
    | name _ hname => cases h.symm.trans hname
    | resolver hname => cases hd.symm.trans hname
    | loader hname => cases hd.symm.trans hname

theorem run_of_waits (hd : d.name = none) (h : s.Waits) : (d.run s).result = .ok d := by
  induction s with
  | nil => rfl
  | cons a s ih =>
    obtain ⟨⟨hname, ha⟩, hs⟩ := List.forall_mem_cons.mp h
    obtain ⟨e, he⟩ := perform_error_of_name? hd hname
    rw [run_cons_error he, if_pos ha, ih hs]

/-- A run from a draft without a name waits for a name, and goes on from there. -/
theorem run_unnamed_iff (hd : d.name = none) :
    (d.run s).result = .ok d' ↔ (s.Waits ∧ d' = d) ∨
      ∃ before a later name, s = before ++ a :: later ∧ Setup.Waits before ∧
        a.step.name? = some name ∧ ({ d with name := some name }.run later).result = .ok d' := by
  constructor
  · intro h
    induction s with
    | nil =>
      cases h
      exact .inl ⟨fun a ha => (nomatch ha), rfl⟩
    | cons a s ih =>
      cases hp : d.perform a.step with
      | ok d₁ =>
        rw [run_cons_ok hp] at h
        cases perform_eq_ok_iff.mp hp with
        | name _ hname => exact .inr ⟨[], a, s, _, rfl, fun a ha => (nomatch ha), hname, h⟩
        | resolver hname => cases hd.symm.trans hname
        | loader hname => cases hd.symm.trans hname
      | error e =>
        have hname : a.step.name? = none := name?_of_error hd hp
        rw [run_cons_error hp] at h
        split at h
        · rename_i ha
          rcases ih h with ⟨hwaits, rfl⟩ | ⟨before, b, later, name, rfl, hwaits, hb, hrun⟩
          · exact .inl ⟨List.forall_mem_cons.mpr ⟨⟨hname, ha⟩, hwaits⟩, rfl⟩
          · exact .inr ⟨a :: before, b, later, name, rfl,
              List.forall_mem_cons.mpr ⟨⟨hname, ha⟩, hwaits⟩, hb, hrun⟩
        · cases h
  · rintro (⟨hwaits, rfl⟩ | ⟨before, a, later, name, rfl, hwaits, hname, hrun⟩)
    · exact run_of_waits hd hwaits
    · rw [run_append, run_of_waits hd hwaits]
      exact (run_cons_ok (perform_eq_ok_iff.mpr (.name hd hname))).trans hrun

/-- A run that ends without a name leaves a new draft as it was, or fails with an error that shows
its number, unless a step brought the error. -/
theorem run_unnamed_outcome (hd : d.name = none) (hs : ∀ o ∈ (d.run s).steps, o.name = none) :
    (d.run s).result = .ok d ∨ ∃ e, (d.run s).result = .error e ∧
      ((∃ a ∈ s, ∃ reason, a.step = .fail reason ∧ e = .options (.other reason)) ∨
        ∃ mistake, e = .setup (unnamedLabel d.index) mistake) := by
  induction s with
  | nil => exact .inl rfl
  | cons a s ih =>
    rw [run] at hs ⊢
    cases hp : d.perform a.step with
    | ok d₁ =>
      rw [hp] at hs
      have hname : d₁.name = none := hs _ List.mem_cons_self
      cases perform_eq_ok_iff.mp hp with
      | name => cases hname
      | resolver hsome => cases hd.symm.trans hsome
      | loader hsome => cases hd.symm.trans hsome
    | error e =>
      rw [hp] at hs
      by_cases ha : a.tolerant = true
      · simp only [ha, if_true] at hs ⊢
        rcases ih fun o ho => hs o (List.mem_cons_of_mem _ ho) with hok | ⟨e', he', hkind⟩
        · exact .inl hok
        · refine .inr ⟨e', he', hkind.imp_left ?_⟩
          rintro ⟨b, hb, hfail⟩
          exact ⟨b, List.mem_cons_of_mem a hb, hfail⟩
      · simp only [ha]
        refine .inr ⟨e, rfl, (perform_error_of_unnamed hd hp).imp_left ?_⟩
        exact fun hfail => ⟨a, List.mem_cons_self, hfail⟩

end PluginDraft

end BundleGraph
