import BundleGraph.Proofs.Plugin.Draft
import BundleGraph.Proofs.Plugin.Silence

/-!
# How plugins are registered

A setup registers the plugin that its steps say, at the end of the registry, or it fails and
registers nothing.  So a list of setups registers the plugins of those that succeed, in order, if
it goes on after failures; and if it does not, it succeeds when all of them do, and fails as the
first that fails.  The number of plugins before a setup is seen only in the errors of one that
never gave a name.

## Main definitions

* `Setup.plugin?` — the plugin that a setup describes.
* `Registry.registerEach` — setups registered one after the other, whether or not they succeed.
* `Registry.SetupLaw`, `Registry.ListLaw` — what setups of a registry, and lists of them, come to.
* `Registry.setup_law` — these hold of every registry and every list.
-/

namespace BundleGraph

/-! ## One setup -/

/-- The plugin that a setup describes, wherever it is registered. -/
def Setup.plugin? (s : Setup) : Option Plugin :=
  (({} : Registry).pluginOf s).toOption

namespace Registry

variable {r r' : Registry} {s : Setup} {ss : List Setup} {p : Plugin} {e : BuildError}

theorem pluginOf_eq_ok_iff_exists :
    r.pluginOf s = .ok p ↔ ∃ d name, (r.runSetup s).result = .ok d ∧ d.name = some name ∧
      p = ⟨name, d.resolvers, d.loaders⟩ := by
  rw [pluginOf]
  cases (r.runSetup s).result with
  | error e => simp
  | ok d =>
    simp only [PluginDraft.finish]
    cases hd : d.name with
    | none => simp [hd]
    | some name => simp [hd, eq_comm]

/-- The plugin of a setup is what its steps say. -/
theorem pluginOf_eq_ok_iff_spellsOut : r.pluginOf s = .ok p ↔ s.SpellsOut p := by
  rw [pluginOf_eq_ok_iff_exists]
  constructor
  · rintro ⟨d, name, hrun, hd, rfl⟩
    rcases (PluginDraft.run_unnamed_iff rfl).mp hrun with
      ⟨-, rfl⟩ | ⟨before, a, later, name', rfl, hwaits, hname, hlater⟩
    · cases hd
    · obtain ⟨hfits, rfl⟩ := (PluginDraft.run_named_iff rfl).mp hlater
      cases hd
      exact ⟨before, a, later, rfl, hwaits, hname, hfits, rfl, rfl⟩
  · rintro ⟨before, a, later, rfl, hwaits, hname, hfits, hresolvers, hloaders⟩
    refine ⟨{ index := r.size, name := some p.name, resolvers := p.resolvers
              loaders := p.loaders }, p.name, ?_, rfl, rfl⟩
    refine (PluginDraft.run_unnamed_iff rfl).mpr
      (.inr ⟨before, a, later, p.name, rfl, hwaits, hname, ?_⟩)
    rw [PluginDraft.run_named_iff rfl, hresolvers, hloaders]
    exact ⟨hfits, rfl⟩

theorem plugin?_eq_some_iff : s.plugin? = some p ↔ s.SpellsOut p := by
  rw [Setup.plugin?, toOption_eq_some_iff, pluginOf_eq_ok_iff_spellsOut]

theorem plugin?_eq_none_iff : s.plugin? = none ↔ ∀ p, ¬ s.SpellsOut p := by
  simp only [← plugin?_eq_some_iff, Option.eq_none_iff_forall_ne_some, ne_eq]

/-- A setup is registered as the plugin that it describes. -/
theorem register_of_plugin? (h : s.plugin? = some p) :
    (r.register s).result = .ok ⟨r.plugins ++ [p]⟩ := by
  rw [result_register, pluginOf_eq_ok_iff_spellsOut.mpr (plugin?_eq_some_iff.mp h)]
  rfl

/-- A setup that describes no plugin is not registered. -/
theorem register_of_plugin?_none (h : s.plugin? = none) :
    ∃ e, r.pluginOf s = .error e ∧ (r.register s).result = .error e := by
  rw [result_register]
  cases hp : r.pluginOf s with
  | ok p => exact absurd (pluginOf_eq_ok_iff_spellsOut.mp hp) (plugin?_eq_none_iff.mp h p)
  | error e => exact ⟨e, rfl, rfl⟩

/-! ## Many setups -/

/-- The registry after setups were registered one after the other, going on after those that
fail. -/
def registerEach (r : Registry) (ss : List Setup) : Registry :=
  ss.foldl (fun r s =>
    match (r.register s).result with
    | .ok r' => r'
    | .error _ => r) r

theorem registerEach_cons (r : Registry) (s : Setup) (ss : List Setup) :
    r.registerEach (s :: ss) = ((⟨r.plugins ++ s.plugin?.toList⟩ : Registry).registerEach ss) := by
  rw [registerEach, List.foldl_cons, registerEach]
  cases hp : s.plugin? with
  | some p => rw [register_of_plugin? hp]; rfl
  | none =>
    obtain ⟨e, -, he⟩ := register_of_plugin?_none (r := r) hp
    rw [he, Option.toList_none, List.append_nil]

/-- The plugins of the setups that describe one are registered, in order. -/
theorem registerEach_eq (r : Registry) (ss : List Setup) :
    r.registerEach ss = ⟨r.plugins ++ ss.filterMap Setup.plugin?⟩ := by
  induction ss generalizing r with
  | nil => rw [List.filterMap_nil, List.append_nil]; rfl
  | cons s ss ih =>
    rw [registerEach_cons, ih, List.append_assoc]
    cases hp : s.plugin? with
    | some p => rw [List.filterMap_cons_some hp]; rfl
    | none => rw [List.filterMap_cons_none hp]; rfl

theorem registerAll_cons (r : Registry) (s : Setup) (ss : List Setup) :
    (r.registerAll (s :: ss)).result =
      (r.register s).result.bind fun r' => (r'.registerAll ss).result := by
  rw [registerAll, Work.result_bind]

/-- Registering goes on up to the first setup that describes no plugin. -/
theorem registerAll_append {before : List Setup} (h : ∀ s ∈ before, s.plugin?.isSome = true)
    (r : Registry) (ss : List Setup) :
    (r.registerAll (before ++ ss)).result = ((r.registerEach before).registerAll ss).result := by
  induction before generalizing r with
  | nil => rfl
  | cons s before ih =>
    obtain ⟨hs, hbefore⟩ := List.forall_mem_cons.mp h
    obtain ⟨p, hp⟩ := Option.isSome_iff_exists.mp hs
    rw [List.cons_append, registerAll_cons, register_of_plugin? hp, registerEach_cons, hp,
      ← ih hbefore]
    rfl

theorem registerAll_of_forall (h : ∀ s ∈ ss, s.plugin?.isSome = true) (r : Registry) :
    (r.registerAll ss).result = .ok (r.registerEach ss) := by
  have happend := registerAll_append h r []
  rw [List.append_nil] at happend
  rw [happend]
  rfl

theorem registerAll_of_first {before later : List Setup}
    (h : ∀ s ∈ before, s.plugin?.isSome = true)
    (hs : ((r.registerEach before).register s).result = .error e) :
    (r.registerAll (before ++ s :: later)).result = .error e := by
  rw [registerAll_append h, registerAll_cons, hs]
  rfl

/-- Setups all describe a plugin, or one of them is the first that does not. -/
theorem exists_first_failure (ss : List Setup) :
    (∀ s ∈ ss, s.plugin?.isSome = true) ∨ ∃ before s later, ss = before ++ s :: later ∧
      (∀ s ∈ before, s.plugin?.isSome = true) ∧ s.plugin? = none := by
  induction ss with
  | nil => exact .inl fun s hs => nomatch hs
  | cons s ss ih =>
    cases hp : s.plugin? with
    | none => exact .inr ⟨[], s, ss, rfl, fun s hs => (nomatch hs), hp⟩
    | some p =>
      have hs : s.plugin?.isSome = true := by rw [hp]; rfl
      rcases ih with h | ⟨before, s', later, rfl, hbefore, hs'⟩
      · exact .inl (List.forall_mem_cons.mpr ⟨hs, h⟩)
      · exact .inr ⟨s :: before, s', later, rfl, List.forall_mem_cons.mpr ⟨hs, hbefore⟩, hs'⟩

/-! ## The laws -/

/-- What setups come to that are registered in a registry. -/
structure SetupLaw (r : Registry) : Prop where
  /-- A step that fails leaves the draft as it was: to go on in spite of it is to leave it out. -/
  failing_step : ∀ (before : Setup) (a : SetupAction) (later : Setup) (d : PluginDraft)
    (e : BuildError), (r.runSetup before).result = .ok d → d.perform a.step = .error e →
    (r.runSetup (before ++ a :: later)).result =
      if a.tolerant then (r.runSetup (before ++ later)).result else .error e
  /-- There is no handler before the name. -/
  handlers_after_name : ∀ s d, (r.runSetup s).result = .ok d → d.name = none →
    d.resolvers = [] ∧ d.loaders = []
  name_stays : ∀ (s s' : Setup) (d d' : PluginDraft) (name : String),
    (r.runSetup s).result = .ok d → d.name = some name →
    (r.runSetup (s ++ s')).result = .ok d' → d'.name = some name
  /-- A setup that ends well and with a name is registered, as the plugin that its steps say. -/
  registered : ∀ s d name, (r.runSetup s).result = .ok d → d.name = some name →
    ∃ p, s.SpellsOut p ∧ (r.register s).result = .ok ⟨r.plugins ++ [p]⟩
  /-- No other setup is registered. -/
  refused : ∀ s, (∀ d name, (r.runSetup s).result = .ok d → d.name ≠ some name) →
    (∀ p, ¬ s.SpellsOut p) ∧ (∃ e, (r.register s).result = .error e) ∧ r.registerEach [s] = r
  plugin?_iff : ∀ s p, s.plugin? = some p ↔ (r.register s).result = .ok ⟨r.plugins ++ [p]⟩
  /-- Of many setups, those that succeed are registered, in order. -/
  plugins_each : ∀ ss, (r.registerEach ss).plugins = r.plugins ++ ss.filterMap Setup.plugin?
  /-- A draft without a name goes by the number of plugins before it. -/
  label_unnamed : ∀ ss s d, ((r.registerEach ss).runSetup s).result = .ok d → d.name = none →
    d.label = s!"#{(r.registerEach ss).plugins.length} (unnamed)"
  /-- So does a setup that fails and never gave a name, unless it failed by itself. -/
  error_unnamed : ∀ ss s e, ((r.registerEach ss).register s).result = .error e →
    (∀ o ∈ ((r.registerEach ss).runSetup s).steps, o.name = none) →
    (∃ a ∈ s, ∃ reason, a.step = .fail reason ∧ e = .options (.other reason)) ∨
      ∃ mistake, e = .setup s!"#{(r.registerEach ss).plugins.length} (unnamed)" mistake

/-- What a list of setups comes to. -/
structure ListLaw (ss : List Setup) : Prop where
  /-- A list of setups succeeds when each of them does, and registers them all. -/
  ok_iff : ∀ r, (ofSetups ss).result = .ok r ↔
    (∀ s ∈ ss, ∃ p, s.SpellsOut p) ∧ r = ({} : Registry).registerEach ss
  /-- Otherwise it fails as the first does that fails. -/
  error_iff : ∀ e, (ofSetups ss).result = .error e ↔
    ∃ before s later, ss = before ++ s :: later ∧ (∀ s' ∈ before, ∃ p, s'.SpellsOut p) ∧
      ((({} : Registry).registerEach before).register s).result = .error e

theorem runSetup_failing {before later : Setup} {a : SetupAction} {d : PluginDraft}
    (hd : (r.runSetup before).result = .ok d) (he : d.perform a.step = .error e) :
    (r.runSetup (before ++ a :: later)).result =
      if a.tolerant then (r.runSetup (before ++ later)).result else .error e := by
  rw [runSetup] at hd
  rw [runSetup, runSetup, PluginDraft.run_append, PluginDraft.run_append, hd]
  exact PluginDraft.run_cons_error he

/-- A setup that ends well and with a name describes a plugin. -/
theorem exists_spellsOut_iff : (∃ p, s.SpellsOut p) ↔
    ∃ d name, (r.runSetup s).result = .ok d ∧ d.name = some name := by
  simp only [← pluginOf_eq_ok_iff_spellsOut (r := r), pluginOf_eq_ok_iff_exists]
  constructor
  · rintro ⟨p, d, name, hrun, hd, -⟩
    exact ⟨d, name, hrun, hd⟩
  · rintro ⟨d, name, hrun, hd⟩
    exact ⟨_, d, name, hrun, hd, rfl⟩

theorem register_eq_ok_iff :
    (r.register s).result = .ok ⟨r.plugins ++ [p]⟩ ↔ s.plugin? = some p := by
  refine ⟨fun h => ?_, register_of_plugin?⟩
  cases hp : s.plugin? with
  | none =>
    obtain ⟨e, -, he⟩ := register_of_plugin?_none (r := r) hp
    rw [he] at h
    cases h
  | some p' =>
    rw [register_of_plugin? hp] at h
    have hplugins := congrArg Registry.plugins (Except.ok.inj h)
    rw [List.singleton_inj.mp (List.append_cancel_left hplugins)]

theorem label_of_runSetup {d : PluginDraft} (h : (r.runSetup s).result = .ok d)
    (hd : d.name = none) : d.label = s!"#{r.plugins.length} (unnamed)" := by
  have hindex : d.index = r.size := by
    refine PluginDraft.run_induction (P := fun d => d.index = r.size) ?_ rfl h
    intro d step d' hindex htakes
    cases htakes <;> exact hindex
  rw [PluginDraft.label, hd, Option.getD_none, hindex]
  rfl

theorem error_of_unnamed (h : (r.register s).result = .error e)
    (hs : ∀ o ∈ (r.runSetup s).steps, o.name = none) :
    (∃ a ∈ s, ∃ reason, a.step = .fail reason ∧ e = .options (.other reason)) ∨
      ∃ mistake, e = .setup s!"#{r.plugins.length} (unnamed)" mistake := by
  rw [result_register, pluginOf] at h
  rcases PluginDraft.run_unnamed_outcome rfl hs with hok | ⟨e', he, hkind⟩
  · rw [runSetup, hok] at h
    cases h
    exact .inr ⟨.unnamed, rfl⟩
  · rw [runSetup, he] at h
    cases h
    exact hkind

/-- A name that a setup gave stays, whatever steps come after it. -/
theorem name_of_runSetup_append {s' : Setup} {d d' : PluginDraft} {name : String}
    (hd : (r.runSetup s).result = .ok d) (hname : d.name = some name)
    (hd' : (r.runSetup (s ++ s')).result = .ok d') : d'.name = some name := by
  rw [runSetup] at hd
  rw [runSetup, PluginDraft.run_append, hd] at hd'
  exact PluginDraft.run_name hd' hname

/-- A setup that fails, or ends without a name, describes no plugin. -/
theorem plugin?_of_unnamed (h : ∀ d name, (r.runSetup s).result = .ok d → d.name ≠ some name) :
    s.plugin? = none := by
  refine plugin?_eq_none_iff.mpr fun p hp => ?_
  obtain ⟨d, name, hd, hname⟩ := (exists_spellsOut_iff (r := r)).mp ⟨p, hp⟩
  exact h d name hd hname

theorem forall_exists_spellsOut_iff :
    (∀ s ∈ ss, ∃ p, s.SpellsOut p) ↔ ∀ s ∈ ss, s.plugin?.isSome = true := by
  simp only [Option.isSome_iff_exists, plugin?_eq_some_iff]

theorem listLaw (ss : List Setup) : ListLaw ss where
  ok_iff := by
    intro r
    rw [forall_exists_spellsOut_iff]
    rcases exists_first_failure ss with h | ⟨before, s, later, rfl, hbefore, hs⟩
    · have hall : (ofSetups ss).result = .ok (({} : Registry).registerEach ss) :=
        registerAll_of_forall h {}
      rw [hall, Except.ok.injEq]
      exact ⟨fun heq => ⟨h, heq.symm⟩, fun heq => heq.2.symm⟩
    · obtain ⟨e, -, he⟩ := register_of_plugin?_none (r := ({} : Registry).registerEach before) hs
      have herror : (ofSetups (before ++ s :: later)).result = .error e :=
        registerAll_of_first hbefore he
      rw [herror]
      refine iff_of_false (fun h => nomatch h) fun h => ?_
      have hsome := h.1 s (by simp)
      rw [hs] at hsome
      cases hsome
  error_iff := by
    intro e
    simp only [forall_exists_spellsOut_iff]
    constructor
    · intro h
      rcases exists_first_failure ss with hall | ⟨before, s, later, rfl, hbefore, hs⟩
      · rw [ofSetups, registerAll_of_forall hall] at h
        cases h
      · obtain ⟨e', -, he'⟩ :=
          register_of_plugin?_none (r := ({} : Registry).registerEach before) hs
        rw [ofSetups, registerAll_of_first hbefore he'] at h
        cases h
        exact ⟨before, s, later, rfl, hbefore, he'⟩
    · rintro ⟨before, s, later, rfl, hbefore, he⟩
      exact registerAll_of_first hbefore he

/-- Setups do what their steps say, each by itself and many one after the other. -/
theorem setup_law (r : Registry) (ss : List Setup) : r.SetupLaw ∧ ListLaw ss := by
  refine ⟨?_, listLaw ss⟩
  constructor
  case failing_step => exact fun _ _ _ _ _ => runSetup_failing
  case handlers_after_name =>
    exact fun _ _ h => PluginDraft.run_unnamed_handlers h fun _ => ⟨rfl, rfl⟩
  case name_stays => exact fun _ _ _ _ _ => name_of_runSetup_append
  case registered =>
    intro s d name hd hname
    obtain ⟨p, hp⟩ := (exists_spellsOut_iff (r := r)).mpr ⟨d, name, hd, hname⟩
    exact ⟨p, hp, register_of_plugin? (plugin?_eq_some_iff.mpr hp)⟩
  case refused =>
    intro s h
    have hnone := plugin?_of_unnamed h
    obtain ⟨e, -, he⟩ := register_of_plugin?_none (r := r) hnone
    refine ⟨plugin?_eq_none_iff.mp hnone, ⟨e, he⟩, ?_⟩
    rw [registerEach_eq, List.filterMap_cons_none hnone, List.filterMap_nil, List.append_nil]
  case plugin?_iff => exact fun _ _ => register_eq_ok_iff.symm
  case plugins_each => exact fun ss => congrArg plugins (r.registerEach_eq ss)
  case label_unnamed => exact fun _ _ _ => label_of_runSetup
  case error_unnamed => exact fun _ _ _ => error_of_unnamed

end Registry

end BundleGraph
