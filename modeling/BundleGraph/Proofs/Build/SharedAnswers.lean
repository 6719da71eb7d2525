import BundleGraph.Json.Writer
import BundleGraph.Proofs.Build.BreadthFirst
import BundleGraph.Proofs.Build.Closure
import BundleGraph.Proofs.Run.FirstRequest
import Mathlib

/-!
# Whose data an import is resolved with

A loader may attach data to a module for the resolvers of its imports, and the request of an
edge carries the data of its own module.  But requests with one key share an answer, and the key
does not tell the data.  So an edge leads where the resolvers lead the first request of its key,
and that may be the request of another module with the same namespace and directory and the same
specifier.  An edge is sure to lead where its own request would only when the resolvers answer
all requests of its key alike.

## Main definitions

* `BuildPlan.EdgeRequest` — the request of an edge, with the data of its own module.
* `BuildPlan.SharesAnswers` — edges lead where the first requests of their keys do.
* `BuildOptions.Completes.resolved_by_first_request` — this holds of every build that succeeds.
* `BuildOptions.twins_not_ownAnswers` — an edge may not lead where its own request would.
-/

namespace BundleGraph

open Run

/-- Some loaded module is what the walk through the loaders gave for a module of the graph. -/
structure BuildPlan.LoadedAs (p : BuildPlan) (s : RunState) (m : Module)
    (loaded : LoadedModule) : Prop where
  walked : ∃ data, ⟨m.id, data⟩ ∈ s.walkedLoads ∧ (p.load ⟨m.id, data⟩).result = .ok loaded
  contents_eq : m.contents = loaded.contents
  kind_eq : m.kind = loaded.kind

/-- The request of an edge of a module, with what the module's own loader attached. -/
def BuildPlan.EdgeRequest (p : BuildPlan) (s : RunState) (m : Module) (d : Dependency)
    (q : ResolveRequest) : Prop :=
  ∃ loaded, p.LoadedAs s m loaded ∧ q = requestOf m.id loaded ⟨d.specifier, d.kind⟩

/-- Every edge leads where the resolvers lead its own request. -/
def BuildPlan.OwnAnswers (p : BuildPlan) (s : RunState) : Prop :=
  ∀ m ∈ s.graph.nodes, ∀ d ∈ m.dependencies, ∀ q, p.EdgeRequest s m d q →
    ∃ r, p.Answers q r ∧ d.resolved = r.id

/-- Edges lead where the first requests of their keys do. -/
structure BuildPlan.SharesAnswers (p : BuildPlan) (directory : Path) (entries : List String)
    (s : RunState) : Prop where
  /-- The requests are those of the entries and those of the edges. -/
  requests_iff : ∀ q, q ∈ s.answered.map Prod.fst ↔
    (∃ e ∈ entries, q = ResolveRequest.ofEntry e directory) ∨
      ∃ m ∈ s.graph.nodes, ∃ d ∈ m.dependencies, p.EdgeRequest s m d q
  /-- An edge leads where the resolvers lead the first request of its key. -/
  first : ∀ m ∈ s.graph.nodes, ∀ d ∈ m.dependencies, ∃ q q₀ r, p.EdgeRequest s m d q ∧
    s.firstRequest? q.key = some q₀ ∧ p.Answers q₀ r ∧ d.resolved = r.id
  /-- That is where they lead its own request, when all requests of its key fare alike. -/
  own : ∀ m ∈ s.graph.nodes, ∀ d ∈ m.dependencies, ∀ q, p.EdgeRequest s m d q →
    (∀ q' ∈ s.answered.map Prod.fst, q'.key = q.key →
      (p.resolve q').result = (p.resolve q).result) →
    ∃ r, p.Answers q r ∧ d.resolved = r.id

/-- The resolvers of the plugins do not look at the kind of an import. -/
def Registry.IgnoresKind (registry : Registry) : Prop :=
  ∀ h ∈ registry.resolvers, ∀ (q : ResolveRequest) (kind : ImportKind),
    h.2.answer { q with kind } = h.2.answer q

theorem RunState.mem_answered_of_firstRequest? {s : RunState} {k : ResolveKey}
    {q : ResolveRequest} (h : s.firstRequest? k = some q) :
    q ∈ s.answered.map Prod.fst ∧ q.key = k := by
  obtain ⟨a, hfind, rfl⟩ := Option.map_eq_some_iff.mp h
  exact ⟨List.mem_map_of_mem (List.mem_of_find?_eq_some hfind),
    by simpa using List.find?_some hfind⟩

namespace BuildPlan

/-- The requests of a task carry what the loaders gave for its module. -/
theorem Makes.request_eq {p : BuildPlan} {r : Resolution}
    {log : List (ResolveRequest × Resolution)} {m : Module} (h : p.Makes r log m)
    {a : ResolveRequest × Resolution} (ha : a ∈ log) :
    ∃ loaded, r.external = false ∧ (p.load ⟨r.id, r.pluginData⟩).result = .ok loaded ∧
      m.contents = loaded.contents ∧ m.kind = loaded.kind ∧
      a.1 = requestOf m.id loaded ⟨a.1.specifier, a.1.kind⟩ := by
  cases h with
  | external h => cases ha
  | @loaded loaded cs h hl hi =>
    obtain ⟨c, hc, rfl⟩ := List.mem_map.mp ha
    exact ⟨loaded, h, hl, rfl, rfl, rfl⟩

namespace Complete

variable {p : BuildPlan} {directory : Path} {entries : List String} {s : RunState}
variable {read : List (String × Resolution)} {made : List p.Made} {m : Module} {d : Dependency}

theorem loadedAs_unique (h : Complete directory entries s read made) {l l' : LoadedModule}
    (hl : p.LoadedAs s m l) (hl' : p.LoadedAs s m l') : l = l' := by
  obtain ⟨data, hw, hr⟩ := hl.walked
  obtain ⟨data', hw', hr'⟩ := hl'.walked
  -- The loaders are walked once for the module, so both walks are the same.
  have heq := List.inj_on_of_nodup_map h.walkedLoads_ids_nodup hw hw' rfl
  rw [heq, hr'] at hr
  exact (Except.ok.inj hr).symm

theorem edgeRequest_unique (h : Complete directory entries s read made) {q q' : ResolveRequest}
    (hq : p.EdgeRequest s m d q) (hq' : p.EdgeRequest s m d q') : q = q' := by
  obtain ⟨l, hl, rfl⟩ := hq
  obtain ⟨l', hl', rfl⟩ := hq'
  rw [h.loadedAs_unique hl hl']

/-- A request of a task is the request of an edge of its module. -/
theorem edgeRequest (h : Complete directory entries s read made) {t : p.Made} (ht : t ∈ made)
    {a : ResolveRequest × Resolution} (ha : a ∈ t.log) (b : Bool) :
    p.EdgeRequest s { t.node with isEntry := b } ⟨a.1.specifier, a.1.kind, a.2.id⟩ a.1 := by
  obtain ⟨loaded, he, hl, hcontents, hkind, hreq⟩ := t.makes.request_eq ha
  have hwalked : ⟨t.resolution.id, t.resolution.pluginData⟩ ∈ s.walkedLoads := by
    rw [h.walkedLoads_eq, List.mem_flatMap]
    refine ⟨t, ht, ?_⟩
    rw [loadsOf_internal (Bool.eq_false_iff.mp he)]
    exact List.mem_singleton_self _
  rw [← t.makes.id_eq] at hl hwalked
  exact ⟨loaded, ⟨⟨_, hwalked, hl⟩, hcontents, hkind⟩, hreq⟩

/-- An edge comes of an answered request. -/
theorem exists_answered (h : Complete directory entries s read made) (hm : m ∈ s.graph.nodes)
    (hd : d ∈ m.dependencies) :
    ∃ q r, p.EdgeRequest s m d q ∧ (q, r) ∈ s.answered ∧ d.resolved = r.id := by
  obtain ⟨t, ht, rfl⟩ := h.mem_nodes.mp hm
  change d ∈ t.node.dependencies at hd
  rw [t.makes.dependencies_eq] at hd
  obtain ⟨a, ha, rfl⟩ := List.mem_map.mp hd
  exact ⟨a.1, a.2, h.edgeRequest ht ha _, h.mem_answered_of_log ht ha, rfl⟩

theorem mem_requests_iff (h : Complete directory entries s read made) (q : ResolveRequest) :
    q ∈ s.answered.map Prod.fst ↔
      (∃ e ∈ entries, q = ResolveRequest.ofEntry e directory) ∨
        ∃ m ∈ s.graph.nodes, ∃ d ∈ m.dependencies, p.EdgeRequest s m d q := by
  constructor
  · intro hq
    obtain ⟨a, ha, rfl⟩ := List.mem_map.mp hq
    rw [h.answered_perm.mem_iff, List.mem_append] at ha
    rcases ha with ha | ha
    · obtain ⟨b, hb, rfl⟩ := List.mem_map.mp ha
      refine .inl ⟨b.1, ?_, rfl⟩
      rw [h.entries_eq]
      exact List.mem_map_of_mem hb
    · obtain ⟨t, ht, ha⟩ := List.mem_flatMap.mp ha
      refine .inr ⟨_, h.mem_nodes.mpr ⟨t, ht, rfl⟩, ⟨a.1.specifier, a.1.kind, a.2.id⟩, ?_,
        h.edgeRequest ht ha _⟩
      change _ ∈ t.node.dependencies
      rw [t.makes.dependencies_eq]
      exact List.mem_map_of_mem ha
  · rintro (⟨e, he, rfl⟩ | ⟨m, hm, d, hd, hq⟩)
    · rw [h.entries_eq] at he
      obtain ⟨b, hb, rfl⟩ := List.mem_map.mp he
      exact List.mem_map_of_mem (h.mem_answered_of_read hb)
    · obtain ⟨q', r, hq', hans, -⟩ := h.exists_answered hm hd
      rw [h.edgeRequest_unique hq hq']
      exact List.mem_map_of_mem hans

theorem sharesAnswers (h : Complete directory entries s read made) (hf : s.FirstDecides p) :
    p.SharesAnswers directory entries s where
  requests_iff := h.mem_requests_iff
  first := by
    intro m hm d hd
    obtain ⟨q, r, hq, hans, hres⟩ := h.exists_answered hm hd
    obtain ⟨q₀, hq₀, hr⟩ := hf q r hans
    exact ⟨q, q₀, r, hq, hq₀, hr, hres⟩
  own := by
    intro m hm d hd q hq halike
    obtain ⟨q', r, hq', hans, hres⟩ := h.exists_answered hm hd
    cases h.edgeRequest_unique hq hq'
    obtain ⟨q₀, hq₀, hr⟩ := hf q r hans
    obtain ⟨hmem, hkey⟩ := RunState.mem_answered_of_firstRequest? hq₀
    exact ⟨r, (halike q₀ hmem hkey).symm.trans hr, hres⟩

end Complete

end BuildPlan

/-- In a build that succeeds, in whatever order its tasks run and whatever its plugins look at,
an edge leads where the resolvers lead the first request of its key: its own request, or that of
an entry or of another module, with the data of that module. -/
theorem BuildOptions.Completes.resolved_by_first_request {o : BuildOptions} {files : FileSystem}
    {directory : Path} {s : RunState} (h : o.Completes files directory s) :
    ∃ registry, o.Starts files registry directory ∧
      (o.plan registry files).SharesAnswers directory o.entries s := by
  obtain ⟨registry, hstarts, hruns⟩ := h
  obtain ⟨read, made, hc⟩ := hruns.complete
  exact ⟨registry, hstarts, hc.sharesAnswers hruns.firstDecides⟩

namespace BuildOptions

/-- Two modules import `shared`, and their loader attaches a number of its own to each.  The
plugin resolves `shared` to a name with the number in it. -/
def twins : BuildOptions where
  entries := ["a", "b"]
  plugins := [[
    ⟨.setName "twins", false⟩,
    ⟨.addResolver ⟨"", none⟩ none fun q =>
      .ok (some {
        path := if q.specifier = "shared" then "shared-" ++ (q.pluginData.getD .null).write
          else q.specifier
        space := some "memory" }), false⟩,
    ⟨.addLoader ⟨"", some "memory"⟩ none fun q =>
      .ok (some (
        if q.id.path = "a" then
          { text := "@import 'shared';", kind := some .css, pluginData := some (.ofNat 1) }
        else if q.id.path = "b" then
          { text := "@import 'shared';", kind := some .css, pluginData := some (.ofNat 2) }
        else { text := "", kind := some .css })), false⟩]]

/-- What the loader gives for the second twin. -/
def secondLoaded : LoadedModule :=
  ⟨"@import 'shared';", .css, none, some (.ofNat 2), some "twins"⟩

/-- The second twin in the graph.  Its edge leads where the first twin was led. -/
def secondTwin : Module where
  id := ⟨"b", "memory"⟩
  contents := "@import 'shared';"
  kind := .css
  dependencies := [⟨"shared", .stylesheet, ⟨"shared-1", "memory"⟩⟩]
  isEntry := true
  loadedBy := some "twins"
  pluginData := some (.ofNat 2)

/-- The build of the twins succeeds with no files at all, and the resolvers lead the request of
the second twin elsewhere than its edge. -/
theorem twins_runs :
    ∃ registry s, twins.Starts (MemoryFiles.fileSystem ⟨⟨"/"⟩, []⟩) registry ⟨"/"⟩ ∧
      registry.IgnoresKind ∧
      (twins.plan registry (MemoryFiles.fileSystem ⟨⟨"/"⟩, []⟩)).Runs ⟨"/"⟩ twins.entries
        (.ok ()) s ∧
      secondTwin ∈ s.graph.nodes ∧
      (twins.plan registry (MemoryFiles.fileSystem ⟨⟨"/"⟩, []⟩)).LoadedAs s secondTwin
        secondLoaded ∧
      (twins.plan registry (MemoryFiles.fileSystem ⟨⟨"/"⟩, []⟩)).Answers
        (requestOf secondTwin.id secondLoaded ⟨"shared", .stylesheet⟩)
        ⟨⟨"shared-2", "memory"⟩, false, none, some "twins"⟩ := by
  let files := MemoryFiles.fileSystem ⟨⟨"/"⟩, []⟩
  have hregistry : ∃ registry, (Registry.ofSetups twins.plugins).result = .ok registry ∧
      registry.IgnoresKind ∧
      value (Run.build (twins.plan registry files) twins.entries ⟨"/"⟩) {} = .ok () ∧
      (state (Run.build (twins.plan registry files) twins.entries ⟨"/"⟩) {}).graph.nodes[1]? =
        some secondTwin ∧
      (state (Run.build (twins.plan registry files) twins.entries ⟨"/"⟩) {}).walkedLoads[1]? =
        some ⟨secondTwin.id, none⟩ ∧
      ((twins.plan registry files).load ⟨secondTwin.id, none⟩).result = .ok secondLoaded ∧
      ((twins.plan registry files).resolve
        (requestOf secondTwin.id secondLoaded ⟨"shared", .stylesheet⟩)).result =
        .ok ⟨⟨"shared-2", "memory"⟩, false, none, some "twins"⟩ := by
    refine ⟨_, rfl, ?_, by cbv, by cbv, by cbv, by cbv, by cbv⟩
    intro h hh q kind
    obtain rfl := List.mem_singleton.mp hh
    rfl
  obtain ⟨registry, hsetup, hkind, hv, hnode, hwalked, hload, hresolve⟩ := hregistry
  have hruns := BuildPlan.runs_build (twins.plan registry files) ⟨"/"⟩ twins.entries
  rw [hv] at hruns
  refine ⟨registry, _, ⟨by decide, hsetup, rfl⟩, hkind, hruns, List.mem_of_getElem? hnode, ?_,
    hresolve⟩
  exact ⟨⟨none, List.mem_of_getElem? hwalked, hload⟩, rfl, rfl⟩

/-- An edge may lead elsewhere than the resolvers lead its own request, although they do not
look at the kind of an import. -/
theorem twins_not_ownAnswers :
    ∃ files registry directory s, twins.Starts files registry directory ∧
      registry.IgnoresKind ∧
      (twins.plan registry files).Runs directory twins.entries (.ok ()) s ∧
      ¬ (twins.plan registry files).OwnAnswers s := by
  obtain ⟨registry, s, hstarts, hkind, hruns, hnode, hloaded, hans⟩ := twins_runs
  refine ⟨_, registry, _, s, hstarts, hkind, hruns, ?_⟩
  intro hown
  obtain ⟨r, hr, hres⟩ := hown secondTwin hnode ⟨"shared", .stylesheet, ⟨"shared-1", "memory"⟩⟩
    (List.mem_singleton_self _) _ ⟨secondLoaded, hloaded, rfl⟩
  cases hans.unique hr
  exact absurd hres (by decide)

/-- The edges of both twins lead where the request of the first twin does. -/
theorem resolved_by_first_request_twins :
    ∃ files directory s registry, twins.Completes files directory s ∧
      twins.Starts files registry directory ∧
      (twins.plan registry files).SharesAnswers directory twins.entries s := by
  obtain ⟨registry, s, hstarts, -, hruns, -⟩ := twins_runs
  have hs : twins.Completes _ _ s := ⟨registry, hstarts, hruns⟩
  obtain ⟨registry', hstarts', hshares⟩ := hs.resolved_by_first_request
  exact ⟨_, _, s, registry', hs, hstarts', hshares⟩

end BuildOptions

end BundleGraph
