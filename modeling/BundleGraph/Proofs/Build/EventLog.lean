import BundleGraph.Proofs.Build.Accounting
import BundleGraph.Proofs.Plugin.Registration
import BundleGraph.Proofs.Run.Telling

/-!
# The log of a build accounts for it

The log of a build that succeeds starts with its plugins, in the order in which they were
registered, and with its start; it ends with its end.  In between it tells of the walks that ended
in an answer, as many as the report counts, and of each module once.  This holds in whatever order
the tasks run, also when plugins and files answer otherwise from one step to the next.

## Main definitions

* `BuildOptions.Journals` — what a build that succeeds noted, in some order of its tasks.
* `LogLaw` — a log accounts for a report.
* `BuildOptions.log_accounts` — the logs of all builds that succeed do.
-/

namespace BundleGraph

open Relation Run

/-! ## Registered plugins -/

/-- What is told of a plugin when it is registered. -/
def Plugin.event (p : Plugin) : Event :=
  .pluginRegistered p.name p.resolvers.length p.loaders.length

namespace Registry

variable {r r' : Registry} {ss : List Setup}

theorem register_ok {s : Setup} (h : (r.register s).result = .ok r') :
    ∃ p, r'.plugins = r.plugins ++ [p] ∧ (r.register s).notes = [.event p.event] := by
  obtain ⟨p, hp, h⟩ := Work.result_bind_ok h
  cases h
  rw [register, Work.bind_ok hp]
  exact ⟨p, rfl, rfl⟩

/-- The plugins of a list of setups are told of one after the other. -/
theorem registerAll_ok (h : (r.registerAll ss).result = .ok r') :
    ∃ ps, r'.plugins = r.plugins ++ ps ∧
      (r.registerAll ss).notes = ps.map fun p => .event p.event := by
  induction ss generalizing r with
  | nil =>
    cases h
    exact ⟨[], (List.append_nil _).symm, rfl⟩
  | cons s ss ih =>
    obtain ⟨r₁, h₁, h⟩ := Work.result_bind_ok h
    obtain ⟨p, hp, hnotes⟩ := register_ok h₁
    obtain ⟨ps, hps, hmore⟩ := ih h
    refine ⟨p :: ps, ?_, ?_⟩
    · rw [hps, hp, List.append_assoc, List.singleton_append]
    · rw [registerAll, Work.bind_ok h₁, hnotes, hmore]
      rfl

theorem notes_ofSetups (h : (ofSetups ss).result = .ok r) :
    (ofSetups ss).notes = r.plugins.map fun p => .event p.event := by
  obtain ⟨ps, hps, hnotes⟩ := registerAll_ok h
  rw [hps]
  exact hnotes

end Registry

/-! ## Builds with any order and any answers -/

namespace BuildOptions

variable {o : BuildOptions} {files : FileSystem} {directory : Path} {d : Driver} {s : RunState}

/-- One step of a build, with some plugins and files. -/
def PluginStep (o : BuildOptions) (directory : Path) (d d' : Driver) : Prop :=
  ∃ registry files, Driver.Step (o.plan registry files) directory d d'

/-- In some order of its tasks the build succeeds in the state `s`, with plugins and files that may
be others at every step. -/
def Concludes (o : BuildOptions) (directory : Path) (s : RunState) : Prop :=
  ∃ d, ReflTransGen (o.PluginStep directory) (Driver.start o.entries) d ∧
    ∃ registry files, d.Ends (o.plan registry files) directory (.ok ()) s

theorem Concludes.succeeds (h : o.Concludes directory s) : o.Succeeds directory s := by
  obtain ⟨d, hsteps, registry, files, hends⟩ := h
  refine ⟨d, ReflTransGen.mono ?_ _ _ hsteps, _, o.admits_plan registry files, hends⟩
  rintro d d' ⟨registry, files, hstep⟩
  exact ⟨_, o.admits_plan registry files, hstep⟩

/-- Plugins and files that answer alike all the time are a special case. -/
theorem Completes.concludes (h : o.Completes files directory s) : o.Concludes directory s := by
  obtain ⟨registry, -, d, hsteps, hends⟩ := h
  exact ⟨d, ReflTransGen.mono (fun _ _ hstep => ⟨registry, files, hstep⟩) _ _ hsteps,
    registry, files, hends⟩

/-- Wherever a build stands that no task has failed in, its notes account for it. -/
theorem tells_of_steps (h : ReflTransGen (o.PluginStep directory) (Driver.start o.entries) d)
    (hc : d.Clean) : d.run.Tells [] := by
  induction h with
  | refl => exact .empty
  | tail _ hstep ih =>
    obtain ⟨registry, files, hstep⟩ := hstep
    exact hstep.tells (o.telling_plan registry files) hc (ih (hstep.clean_of hc))

theorem Concludes.tells (h : o.Concludes directory s) : s.Tells [] := by
  obtain ⟨d, hsteps, registry, files, hends⟩ := h
  obtain ⟨-, -, hdone, rfl⟩ := hends.finish_of_ok
  exact (tells_of_steps hsteps (Driver.clean_of_done_eq_nil hdone)).declareEntries d.roots

/-- The notes of a build whose run ended well. -/
def journal (o : BuildOptions) (registry : Registry) (s : RunState) : List Note :=
  (Registry.ofSetups o.plugins).notes ++
    .event (.buildStarted o.entries.length registry.size o.bundle) ::
      (s.notes ++ [.event (.buildFinished s.stats.modules s.stats.resolves s.stats.loads)])

/-- In some order of its tasks the build succeeds with the report, and makes the notes. -/
def Journals (o : BuildOptions) (files : FileSystem) (notes : List Note) (report : BuildReport) :
    Prop :=
  ∃ registry directory s, o.Starts files registry directory ∧ o.Concludes directory s ∧
    notes = o.journal registry s ∧ report = o.report s

theorem notes_execute {p : BuildPlan} {entries : List String}
    (h : (p.execute entries directory).result = .ok s) :
    (p.execute entries directory).notes = s.notes := by
  rw [BuildPlan.execute] at h ⊢
  cases hrun : (Run.build p entries directory).run {} with
  | ok u t =>
    rw [hrun] at h
    cases h
    rfl
  | error e t =>
    rw [hrun] at h
    cases h

/-- The order of `BuildOptions.build` is one of the orders. -/
theorem journals_of_build {report : BuildReport} (h : (o.build files).result = .ok report) :
    o.Journals files (o.build files).notes report := by
  obtain ⟨_, hvalid, h⟩ := Work.result_bind_ok h
  obtain ⟨registry, hregistry, h⟩ := Work.result_bind_ok h
  obtain ⟨directory, hdirectory, h⟩ := Work.result_bind_ok h
  obtain ⟨_, _, h⟩ := Work.result_bind_ok h
  obtain ⟨s, hs, h⟩ := Work.result_bind_ok h
  cases h
  have hstarts : o.Starts files registry directory := ⟨hvalid, hregistry, hdirectory⟩
  refine ⟨registry, directory, s, hstarts, ?_, ?_, rfl⟩
  · obtain ⟨hv, rfl⟩ := execute_ok_iff.mp hs
    exact (hstarts.completes hv).concludes
  · rw [build, Work.bind_ok hvalid, Work.bind_ok hregistry, Work.bind_ok hdirectory,
      Work.bind_ok (Work.result_tell _), Work.bind_ok hs, notes_execute hs]
    rfl

end BuildOptions

/-! ## Reading a log -/

/-- The number of events with a text. -/
def said (text : String) (log : List Event) : ℕ :=
  log.countP (·.message = text)

/-- A module that was processed, with the number of its dependencies. -/
def Event.processed? : Event → Option (ModuleId × ℕ)
  | .moduleProcessed id dependencies => some (id, dependencies)
  | _ => none

/-- An external module. -/
def Event.outside? : Event → Option ModuleId
  | .externalModule id => some id
  | _ => none

/-- The log of a build with some plugins, where `body` is what its run told. -/
def logOf (o : BuildOptions) (plugins : List Plugin) (body : List Event) (stats : BuildStats) :
    List Event :=
  plugins.map Plugin.event ++ .buildStarted o.entries.length o.plugins.length o.bundle ::
    (body ++ [.buildFinished stats.modules stats.resolves stats.loads])

/-- A log accounts for a build of options with a report. -/
structure LogLaw (o : BuildOptions) (log : List Event) (report : BuildReport) : Prop where
  /-- The plugins that the setups say come first, in their order and with the numbers of their
  handlers, then the start of the build, then what its run told, and its end is last. -/
  shape : ∃ plugins body, List.Forall₂ Setup.SpellsOut o.plugins plugins ∧
    log = logOf o plugins body report.stats ∧
    ∀ e ∈ body, e.message ∉ ["registered plugin", "starting build", "build finished"]
  resolves_eq :
    said "resolver matched" log + said "default resolver used" log = report.stats.resolves
  loads_eq : said "loader matched" log + said "default loader used" log = report.stats.loads
  processed_eq : said "module processed" log = report.stats.loads
  /-- Each module that is not external was processed once, with the dependencies it has. -/
  processed_perm : (log.filterMap Event.processed?).Perm
    ((report.graph.modules.filter fun m => !m.isExternal).map fun m =>
      (m.id, m.dependencies.length))
  edgeCount_eq :
    ((log.filterMap Event.processed?).map Prod.snd).sum = report.graph.statistics.edgeCount
  external_eq : said "external module" log = report.graph.statistics.externalCount
  /-- Each external module was told of once. -/
  external_perm : (log.filterMap Event.outside?).Perm
    ((report.graph.modules.filter Module.isExternal).map Module.id)
  ids_nodup : (report.graph.modules.map Module.id).Nodup
  no_impasse : said "no resolve dir for relative specifier" log = 0

section
variable {o : BuildOptions} {plugins : List Plugin} {body : List Event} {stats : BuildStats}
variable {text : String} {t : Topic} {notes : List Note} {s : RunState}

/-- Texts of their own do not count what comes before and after the run. -/
theorem said_logOf
    (h : text ∉ ["registered plugin", "starting build", "build finished"]) :
    said text (logOf o plugins body stats) = said text body := by
  simp only [List.mem_cons, List.not_mem_nil, not_or, or_false] at h
  obtain ⟨hregistered, hstarted, hfinished⟩ := h
  simp [said, logOf, Function.comp_def, Plugin.event, Event.message, Ne.symm hregistered,
    Ne.symm hstarted, Ne.symm hfinished]

/-- A topic other than a handler that was passed over is as often in the topics as in the events. -/
theorem count_topicsOf (ht : t ≠ .passing) :
    (topicsOf notes).count t = (eventsOf notes).countP (·.topic = t) := by
  rw [topicsOf, List.count_filter (by simpa using ht), List.count, List.countP_map]
  exact List.countP_congr fun e _ => by simp

/-- If two texts have a topic to themselves, they are as many as the topic. -/
theorem said_add_said {text' : String} {log : List Event} (hne : text ≠ text')
    (h : ∀ e : Event, e.topic = t ↔ e.message = text ∨ e.message = text') :
    said text log + said text' log = log.countP (·.topic = t) := by
  simp only [said, h]
  induction log with
  | nil => rfl
  | cons e log ih =>
    simp only [List.countP_cons, decide_eq_true_eq] at ih ⊢
    by_cases htext : e.message = text
    · have hother : e.message ≠ text' := fun heq => hne (htext.symm.trans heq)
      simp only [htext, hne, true_or, if_true, if_false]
      omega
    · simp only [htext, false_or, if_false]
      omega

/-- What is read off events about modules is read off what is told of them. -/
theorem filterMap_logOf {α : Type} {f : Event → Option α}
    (hf : ∀ e : Event, e.topic ≠ .node → f e = none) :
    (logOf o plugins (eventsOf notes) stats).filterMap f = (nodesTold notes).filterMap f := by
  have hregistered : plugins.filterMap (f ∘ Plugin.event) = [] :=
    List.filterMap_eq_nil_iff.mpr fun p _ => hf p.event (by simp [Plugin.event, Event.topic])
  have hnodes : (fun e : Event => if e.topic = .node then f e else none) = f := by
    funext e
    by_cases he : e.topic = .node
    · rw [if_pos he]
    · rw [if_neg he, hf e he]
  rw [logOf, List.filterMap_append, List.filterMap_map, hregistered, List.nil_append,
    List.filterMap_cons_none (hf _ (by simp [Event.topic])), List.filterMap_append,
    List.filterMap_cons_none (hf _ (by simp [Event.topic])), List.filterMap_nil, List.append_nil,
    nodesTold, List.filterMap_filter]
  simp only [decide_eq_true_eq, hnodes]

/-- A text is said as often as something is read off the events that have it. -/
theorem said_eq_length {α : Type} {f : Event → Option α}
    (hf : ∀ e : Event, e.message = text ↔ (f e).isSome = true) (log : List Event) :
    said text log = (log.filterMap f).length := by
  rw [said, List.length_filterMap_eq_countP]
  exact List.countP_congr fun e _ => by simp [hf]

theorem filterMap_processed?_modules (ms : List Module) :
    (ms.map Module.event).filterMap Event.processed? =
      (ms.filter fun m => !m.isExternal).map fun m => (m.id, m.dependencies.length) := by
  rw [List.filterMap_map, ← List.filterMap_eq_map, List.filterMap_filter]
  congr 1
  funext m
  cases hm : m.isExternal <;> simp [Module.event, hm, Event.processed?]

theorem filterMap_outside?_modules (ms : List Module) :
    (ms.map Module.event).filterMap Event.outside? =
      (ms.filter Module.isExternal).map Module.id := by
  rw [List.filterMap_map, ← List.filterMap_eq_map, List.filterMap_filter]
  congr 1
  funext m
  cases hm : m.isExternal <;> simp [Module.event, hm, Event.outside?]

/-- The dependencies of a graph are those of its modules that are not external. -/
theorem sum_dependencies {ms : List Module}
    (h : ∀ m ∈ ms, m.isExternal = true → m.dependencies = []) :
    ((ms.filter fun m => !m.isExternal).map fun m => m.dependencies.length).sum =
      (ms.flatMap Module.dependencies).length := by
  induction ms with
  | nil => rfl
  | cons m ms ih =>
    obtain ⟨hm, hms⟩ := List.forall_mem_cons.mp h
    rw [List.flatMap_cons, List.length_append, ← ih hms]
    cases he : m.isExternal with
    | true => simp [he, hm he]
    | false => simp [he]

end

/-! ## The law -/

/-- What a run tells is neither about plugins nor about the build. -/
theorem RunState.Tells.message_not_mem {s : RunState} {ahead : List Event} (h : s.Tells ahead)
    {e : Event} (he : e ∈ eventsOf s.notes) :
    e.message ∉ ["registered plugin", "starting build", "build finished",
      "no resolve dir for relative specifier"] := by
  have htopic : e.topic = .passing ∨ e.topic.OfRun := by
    by_cases hpassing : e.topic = .passing
    · exact .inl hpassing
    · refine .inr (h.ofRun _ ?_)
      simp only [topicsOf, List.mem_filter, List.mem_map]
      exact ⟨⟨e, he, rfl⟩, by simpa using hpassing⟩
  cases e <;> simp_all [Event.topic, Topic.OfRun, Event.message]

/-- The modules of a graph in the order of their identities, and those of a kind among them. -/
theorem ModuleGraph.filter_nodes_perm (g : ModuleGraph) (f : Module → Bool) :
    (g.nodes.filter f).Perm (g.modules.filter f) :=
  (List.mergeSort_perm _ _).symm.filter f

namespace BuildOptions

variable {o : BuildOptions} {files : FileSystem} {directory : Path} {s : RunState}

theorem eventsOf_journal {registry : Registry} (h : o.Starts files registry directory)
    (s : RunState) :
    List.Forall₂ Setup.SpellsOut o.plugins registry.plugins ∧
      eventsOf (o.journal registry s) =
        logOf o registry.plugins (eventsOf s.notes) s.stats := by
  have hplugins : List.Forall₂ Setup.SpellsOut o.plugins registry.plugins :=
    (Registry.ofSetups_ok_iff.mp h.registered).imp fun _ _ =>
      Registry.pluginOf_eq_ok_iff_spellsOut.mp
  refine ⟨hplugins, ?_⟩
  have hsize : registry.size = o.plugins.length := hplugins.length_eq.symm
  rw [journal, Registry.notes_ofSetups h.registered, eventsOf_append, hsize, logOf]
  congr 1
  · simp [eventsOf, List.filterMap_map]
  · change _ :: eventsOf (s.notes ++ _) = _
    rw [eventsOf_append]
    rfl

/-- The log of a build that ran to its end accounts for its report. -/
theorem Concludes.logLaw {registry : Registry} (h : o.Concludes directory s)
    (hstarts : o.Starts files registry directory) :
    LogLaw o (eventsOf (o.journal registry s)) (o.report s) := by
  obtain ⟨hplugins, hlog⟩ := eventsOf_journal hstarts s
  obtain ⟨hb, htracks, htallied, -, -⟩ := h.succeeds.balance
  have htells := h.tells
  have hnodes : nodesTold s.notes = s.graph.nodes.map Module.event :=
    htells.nodes_eq.trans (List.append_nil _)
  have hloads := hb.loads_add_externalCount htracks htallied.2
  have hprocessed : (eventsOf (o.journal registry s)).filterMap Event.processed? =
      (s.graph.nodes.filter fun m => !m.isExternal).map fun m =>
        (m.id, m.dependencies.length) := by
    rw [hlog, filterMap_logOf fun e he => by cases e <;> simp_all [Event.topic, Event.processed?],
      hnodes, filterMap_processed?_modules]
  have houtside : (eventsOf (o.journal registry s)).filterMap Event.outside? =
      (s.graph.nodes.filter Module.isExternal).map Module.id := by
    rw [hlog, filterMap_logOf fun e he => by cases e <;> simp_all [Event.topic, Event.outside?],
      hnodes, filterMap_outside?_modules]
  constructor
  case shape =>
    refine ⟨registry.plugins, eventsOf s.notes, hplugins, hlog, fun e he hmem => ?_⟩
    exact htells.message_not_mem he (List.mem_append_left ["no resolve dir for relative specifier"]
      hmem)
  case resolves_eq =>
    rw [hlog, said_logOf (by decide), said_logOf (by decide),
      said_add_said (t := .resolution) (by decide) fun e => by
        cases e <;> simp [Event.topic, Event.message],
      ← count_topicsOf (by decide), ← htells.resolves_eq]
    rfl
  case loads_eq =>
    rw [hlog, said_logOf (by decide), said_logOf (by decide),
      said_add_said (t := .loading) (by decide) fun e => by
        cases e <;> simp [Event.topic, Event.message],
      ← count_topicsOf (by decide), ← htells.loads_eq]
    rfl
  case processed_eq =>
    rw [said_eq_length (f := Event.processed?) fun e => by
        cases e <;> simp [Event.message, Event.processed?],
      hprocessed, List.length_map]
    have hsplit := List.length_eq_length_filter_add (l := s.graph.nodes) Module.isExternal
    have hall : s.loads + (s.graph.nodes.filter Module.isExternal).length =
        s.graph.nodes.length := hloads
    change _ = s.loads
    omega
  case processed_perm =>
    rw [hprocessed]
    exact (s.graph.filter_nodes_perm _).map _
  case edgeCount_eq =>
    rw [hprocessed, List.map_map]
    exact sum_dependencies htells.external_bare
  case external_eq =>
    rw [said_eq_length (f := Event.outside?) fun e => by
        cases e <;> simp [Event.message, Event.outside?],
      houtside, List.length_map]
    rfl
  case external_perm =>
    rw [houtside]
    exact (s.graph.filter_nodes_perm _).map _
  case ids_nodup =>
    exact ((List.mergeSort_perm _ _).map Module.id).nodup_iff.mpr (hb.ids_nodup htracks)
  case no_impasse =>
    rw [hlog, said_logOf (by decide), said, List.countP_eq_zero]
    intro e he
    have hmem := htells.message_not_mem he
    simp_all

/-- The log of every build that succeeds accounts for its report, whatever its plugins and files
answer and in whatever order its tasks run. -/
theorem log_accounts (o : BuildOptions) (files : FileSystem) (report : BuildReport) :
    (∀ notes, o.Journals files notes report → LogLaw o (eventsOf notes) report) ∧
      ((o.build files).result = .ok report →
        LogLaw o (eventsOf (o.build files).notes) report) := by
  have hjournals : ∀ notes, o.Journals files notes report → LogLaw o (eventsOf notes) report := by
    rintro _ ⟨registry, directory, s, hstarts, hs, rfl, rfl⟩
    exact hs.logLaw hstarts
  exact ⟨hjournals, fun h => hjournals _ (journals_of_build h)⟩

/-- Of four requests three are told of, one of two modules is loaded and processed, with two
dependencies, and the other is external. -/
theorem log_accounts_circle :
    ∃ report, (circle.build (MemoryFiles.fileSystem ⟨⟨"/"⟩, []⟩)).result = .ok report ∧
      LogLaw circle (eventsOf (circle.build (MemoryFiles.fileSystem ⟨⟨"/"⟩, []⟩)).notes) report ∧
      report.graph.statistics = ⟨2, 1, 1, 2⟩ ∧ report.stats = ⟨2, 4, 3, 1⟩ := by
  obtain ⟨report, h, hcounts, hstats⟩ := circle_report
  exact ⟨report, h, (log_accounts _ _ report).2 h, hcounts, hstats⟩

end BuildOptions

end BundleGraph
