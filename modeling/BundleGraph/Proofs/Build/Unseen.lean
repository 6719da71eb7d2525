import BundleGraph.Proofs.Build.Completion
import BundleGraph.Proofs.Plugin.Silence
import BundleGraph.Proofs.Run.Asking

/-!
# What a build does not see of its plugins

A build takes from its plugins what they answer, and from a registry of plugins how it decides
its questions.  Two registries that decide alike give the same build: the answers are the same
before and after they are kept, the tasks are claimed in the same order, and the first failure is
the same.  In whatever order the one runs its tasks, the other comes to the same in that order.
What differs is the journal, which shows every handler that is passed over.

So a plugin that never decides may stand anywhere in the list, and a plugin may be given in two
pieces of one name.

## Main definitions

* `BuildPlan.AnswersLike` — two plans give the same answers, whatever they note.
* `RunState.Matches` — two runs stand at the same place and asked the same.
* `BuildOptions.Outcome` — what a build ends with in some order of its tasks.
* `BuildOptions.silence_and_splitting_unseen` — plugins whose registries decide alike.
* `BuildOptions.silence_and_splitting_unseen_in_any_order` — the same, whatever the order.
-/

namespace BundleGraph

/-! ## Plans that answer alike -/

/-- Two plans give the same answers, whatever they note on the way. -/
structure BuildPlan.AnswersLike (p p' : BuildPlan) : Prop extends p.LoadsLike p' where
  resolve_result : ∀ q, (p'.resolve q).result = (p.resolve q).result

/-- Two runs stand at the same place and asked the same. -/
structure RunState.Matches (s t : RunState) : Prop extends s.SamePlace t where
  asked_eq : t.asked = s.asked

theorem RunState.Matches.empty : ({} : RunState).Matches {} :=
  ⟨⟨rfl, rfl, rfl, rfl⟩, rfl⟩

theorem RunState.matches_alongside : RunState.Alongside RunState.Matches where
  place h := h.toSamePlace
  kept h hs ht hplace := ⟨hplace, ht.trans (h.asked_eq.trans hs.symm)⟩

namespace Run

variable {p p' : BuildPlan}

/-- The memory is asked first, and it answers both runs alike. -/
theorem resolve_matches (h : p.AnswersLike p') (q : ResolveRequest) :
    Follows RunState.Matches (resolve p q) (resolve p' q) := by
  intro s t hst
  obtain ⟨hplace, hasked⟩ := hst
  simp only [RunState.asked, Prod.mk.injEq] at hasked
  obtain ⟨hanswers, hrequests, hresolves⟩ := hasked
  have hanswer : t.answer? q.key = s.answer? q.key := by
    rw [RunState.answer?, RunState.answer?, hanswers]
  rw [value_resolve, value_resolve, hanswer]
  cases hq : s.answer? q.key with
  | some r =>
    rw [state_resolve_known hq, state_resolve_known (hanswer.trans hq)]
    refine ⟨rfl, ⟨hplace.claimed_eq, hplace.pending_eq, hplace.graph_eq, hplace.loads_eq⟩, ?_⟩
    simp only [RunState.asked, ask, hanswers, hrequests, hresolves]
  | none =>
    rw [state_resolve_new hq, state_resolve_new (hanswer.trans hq), state_walk, state_walk]
    refine ⟨h.resolve_result q,
      ⟨hplace.claimed_eq, hplace.pending_eq, hplace.graph_eq, hplace.loads_eq⟩, ?_⟩
    simp only [RunState.asked, ask, hanswers, hrequests, hresolves, h.resolve_result q]

/-- Runs of plans that answer alike come to the same. -/
theorem build_matches (h : p.AnswersLike p') (entries : List String) (directory : Path) :
    Follows RunState.Matches (build p entries directory) (build p' entries directory) := by
  rw [← buildBy_resolve, ← buildBy_resolve]
  exact buildBy_follows RunState.matches_alongside h.toLoadsLike (resolve_matches h) entries
    directory

end Run

/-- Registries that decide alike give plans that answer alike. -/
theorem Registry.SameVerdicts.answersLike {registry registry' : Registry}
    (h : registry.SameVerdicts registry') (o : BuildOptions) (files : FileSystem) :
    (o.plan registry files).AnswersLike (o.plan registry' files) where
  load_result q := by
    simp only [BuildOptions.plan, Registry.load, result_loadWith_eq, h.load_eq]
  followImports_eq := rfl
  maxModules_eq := rfl
  resolve_result q := by
    simp only [BuildOptions.plan, Registry.resolve, result_resolveWith_eq, h.resolve_eq]

namespace BuildOptions

variable {o : BuildOptions} {files : FileSystem}

/-- The options with other plugins. -/
def withPlugins (o : BuildOptions) (plugins : List Setup) : BuildOptions :=
  { o with plugins }

theorem report_of_matches {s t : RunState} (h : s.Matches t) : o.report t = o.report s := by
  have hasked := h.asked_eq
  simp only [RunState.asked, Prod.mk.injEq] at hasked
  obtain ⟨-, hrequests, hresolves⟩ := hasked
  simp only [report, RunState.stats, h.graph_eq, h.loads_eq, hrequests, hresolves]

/-- In some order of its tasks, the build ends with `y`. -/
def Outcome (o : BuildOptions) (files : FileSystem) (y : Except BuildError BuildReport) : Prop :=
  ∃ directory x s, o.ComesTo files directory x s ∧ y = x.map fun _ => o.report s

/-- What `BuildOptions.build` comes to is an outcome, when the build can start. -/
theorem Starts.outcome {registry : Registry} {directory : Path}
    (h : o.Starts files registry directory) : o.Outcome files (o.build files).result :=
  ⟨directory, _, _, ⟨registry, h, BuildPlan.runs_build _ directory o.entries⟩, result_build h⟩

section
variable {plugins plugins' : List Setup} (h : Registry.SetUpAlike plugins plugins')
include h

/-- Plugins whose registries decide alike give the same build. -/
theorem build_withPlugins_eq :
    ((o.withPlugins plugins').build files).result =
      ((o.withPlugins plugins).build files).result := by
  obtain ⟨registry, registry', hr, hr', hsame⟩ := h
  cases hv : o.validate with
  | error e =>
    have hv' : ∀ ss, (o.withPlugins ss).validate = .error e := fun _ => hv
    simp only [build, Work.result_bind, Work.result_ofExcept, hv', Except.bind]
  | ok u =>
    have hrun : ∀ directory,
        ((Run.value (Run.build (o.plan registry' files) o.entries directory) {}).map fun _ =>
          o.report (Run.state (Run.build (o.plan registry' files) o.entries directory) {})) =
        (Run.value (Run.build (o.plan registry files) o.entries directory) {}).map fun _ =>
          o.report (Run.state (Run.build (o.plan registry files) o.entries directory) {}) := by
      intro directory
      obtain ⟨hvalue, hstate⟩ :=
        Run.build_matches (hsame.answersLike o files) o.entries directory {} {} .empty
      rw [hvalue, report_of_matches hstate]
    refine (result_build_of_registered (o := o.withPlugins plugins') hv hr').trans ?_
    refine Eq.trans ?_ (result_build_of_registered (o := o.withPlugins plugins) hv hr).symm
    exact congrArg ((o.directory files).bind ·) (funext hrun)

/-- What plugins lead to in some order, plugins whose registries decide alike lead to. -/
theorem Outcome.of_setUpAlike {y : Except BuildError BuildReport}
    (hy : (o.withPlugins plugins).Outcome files y) : (o.withPlugins plugins').Outcome files y := by
  obtain ⟨registry, registry', hr, hr', hsame⟩ := h
  obtain ⟨directory, x, s, ⟨started, hstarts, hruns⟩, rfl⟩ := hy
  have heq : started = registry := Except.ok.inj (hstarts.registered.symm.trans hr)
  rw [heq] at hruns
  have hlike := hsame.answersLike (o.withPlugins plugins) files
  obtain ⟨t, hruns', ht⟩ := hruns.follow RunState.matches_alongside hlike.toLoadsLike
    (Run.resolve_matches hlike) .empty
  refine ⟨directory, x, t, ⟨registry', ⟨hstarts.valid, hr', hstarts.located⟩, hruns'⟩, ?_⟩
  rw [← report_of_matches ht]
  rfl

end

theorem outcome_withPlugins_iff {plugins plugins' : List Setup}
    (h : Registry.SetUpAlike plugins plugins') {y : Except BuildError BuildReport} :
    (o.withPlugins plugins').Outcome files y ↔ (o.withPlugins plugins).Outcome files y :=
  ⟨.of_setUpAlike h.symm, .of_setUpAlike h⟩

/-- What a build comes to depends on the handlers and their order alone.  When the setups of a
list succeed, one more plugin that never fails and never decides changes nothing wherever it is
registered, and nothing changes when a plugin is registered in two pieces. -/
theorem silence_and_splitting_unseen {before after : List Setup} {registry : Registry}
    (hr : (Registry.ofSetups (before ++ after)).result = .ok registry) (o : BuildOptions)
    (files : FileSystem) :
    (∀ (s : Setup) (p : Plugin), s.Describes p → p.Silent →
      ((o.withPlugins (before ++ [s] ++ after)).build files).result =
        ((o.withPlugins (before ++ after)).build files).result) ∧
    ∀ (s s₁ s₂ : Setup) (p p₁ p₂ : Plugin), s.Describes p → s₁.Describes p₁ →
      s₂.Describes p₂ → p.SplitsInto p₁ p₂ →
      ((o.withPlugins (before ++ [s₁, s₂] ++ after)).build files).result =
        ((o.withPlugins (before ++ [s] ++ after)).build files).result := by
  constructor
  · intro s p hs hp
    exact build_withPlugins_eq (Registry.setUpAlike_insert hr hs hp)
  · intro s s₁ s₂ p p₁ p₂ hs hs₁ hs₂ hp
    exact build_withPlugins_eq (Registry.setUpAlike_split hr hs hs₁ hs₂ hp)

/-- Such plugins do not show in whatever order the tasks run: a build has the same outcomes. -/
theorem silence_and_splitting_unseen_in_any_order {before after : List Setup}
    {registry : Registry} (hr : (Registry.ofSetups (before ++ after)).result = .ok registry)
    (o : BuildOptions) (files : FileSystem) (y : Except BuildError BuildReport) :
    (∀ (s : Setup) (p : Plugin), s.Describes p → p.Silent →
      ((o.withPlugins (before ++ [s] ++ after)).Outcome files y ↔
        (o.withPlugins (before ++ after)).Outcome files y)) ∧
    ∀ (s s₁ s₂ : Setup) (p p₁ p₂ : Plugin), s.Describes p → s₁.Describes p₁ →
      s₂.Describes p₂ → p.SplitsInto p₁ p₂ →
      ((o.withPlugins (before ++ [s₁, s₂] ++ after)).Outcome files y ↔
        (o.withPlugins (before ++ [s] ++ after)).Outcome files y) := by
  constructor
  · intro s p hs hp
    exact outcome_withPlugins_iff (Registry.setUpAlike_insert hr hs hp)
  · intro s s₁ s₂ p p₁ p₂ hs hs₁ hs₂ hp
    exact outcome_withPlugins_iff (Registry.setUpAlike_split hr hs hs₁ hs₂ hp)

/-- A setup with a resolver and a loader that are asked about everything and pass it on. -/
def onlooker : Setup := [
  ⟨.setName "onlooker", false⟩,
  ⟨.addResolver ⟨"", none⟩ none fun _ => .ok none, false⟩,
  ⟨.addLoader ⟨"", some "memory"⟩ none fun _ => .ok none, false⟩]

/-- The plugin of `circle` without its loader. -/
def circleResolving : Setup := [
  ⟨.setName "circle", false⟩,
  ⟨.addResolver ⟨"", none⟩ none fun q =>
    .ok (some {
      path := q.specifier
      space := some "memory"
      external := q.specifier == "outside" }), false⟩]

/-- The plugin of `circle` without its resolver. -/
def circleLoading : Setup := [
  ⟨.setName "circle", false⟩,
  ⟨.addLoader ⟨"", some "memory"⟩ none fun _ =>
    .ok (some { text := "@import 'circle'; @import 'outside'", kind := some .css }), false⟩]

/-- An onlooker does not change what `circle` comes to, and its plugin may be given in pieces. -/
theorem circle_unseen :
    ∃ files report, (circle.build files).result = .ok report ∧
      ((circle.withPlugins ([onlooker] ++ circle.plugins)).build files).result = .ok report ∧
      ((circle.withPlugins [circleResolving, circleLoading]).build files).result =
        .ok report := by
  obtain ⟨report, h, -⟩ := circle_ok
  obtain ⟨registry, hr⟩ : ∃ registry,
      (Registry.ofSetups ([] ++ circle.plugins)).result = .ok registry := ⟨_, rfl⟩
  obtain ⟨noPlugins, hnone⟩ : ∃ registry,
      (Registry.ofSetups ([] ++ [])).result = .ok registry := ⟨_, rfl⟩
  refine ⟨_, report, h, ?_, ?_⟩
  · refine ((silence_and_splitting_unseen hr circle _).1 onlooker _ rfl ⟨?_, ?_⟩).trans h
    · intro resolver hmem q
      cases List.mem_singleton.mp hmem
      exact .inr rfl
    · intro loader hmem q
      cases List.mem_singleton.mp hmem
      exact .inr rfl
  · exact ((silence_and_splitting_unseen hnone circle _).2 (circle.plugins.head (by decide))
      circleResolving circleLoading _ _ _ rfl rfl rfl ⟨rfl, rfl, rfl, rfl⟩).trans h

end BuildOptions

end BundleGraph
