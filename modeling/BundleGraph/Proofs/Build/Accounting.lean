import BundleGraph.Proofs.Build.Steps
import BundleGraph.Proofs.Run.Balance

/-!
# The counts of a build are exact

The report of a build that succeeds has four counts, which were kept in different places while
the build ran.  They are what the graph and the requests make of them, to the last unit, with
entries given twice, with external modules, and whether or not imports are followed.

## Main definitions

* `BuildReport.Accounted` — the counts of a report are exact.
* `BuildOptions.Succeeds.accounted` — this holds of every build that succeeds.
-/

namespace BundleGraph

open Run

/-- The counts of a report on a build of `entries` whose requests were `requested`. -/
structure BuildReport.Accounted (report : BuildReport) (entries : List String)
    (requested : List ResolveRequest) : Prop where
  /-- Every request is counted. -/
  requested_eq : report.stats.resolveRequests = requested.length
  /-- A request is that of an entry or that of an edge. -/
  requests_eq :
    report.stats.resolveRequests = entries.length + report.graph.statistics.edgeCount
  /-- The resolvers are walked once for each key that comes up. -/
  resolves_eq : report.stats.resolves = (requested.map ResolveRequest.key).toFinset.card
  /-- Every module is external or was walked through the loaders. -/
  loads_eq : report.stats.loads + report.graph.statistics.externalCount = report.stats.modules
  modules_eq : report.stats.modules = report.graph.size
  moduleCount_eq : report.graph.statistics.moduleCount = report.graph.size
  entryCount_eq : report.graph.statistics.entryCount = report.entryPoints.length
  modules_le : report.stats.modules ≤ report.stats.resolves
  resolves_le : report.stats.resolves ≤ report.stats.resolveRequests
  cacheHits_eq : report.stats.cacheHits + report.stats.resolves = report.stats.resolveRequests

namespace BuildOptions

variable {o : BuildOptions} {directory : Path} {d : Driver} {s : RunState}

theorem Reaches.counted (h : o.Reaches directory d) : d.run.Counted :=
  reaches_induction rfl (fun _ hs => hs.counted) h

/-- The sums hold wherever a build stands that no task has failed in. -/
theorem Reaches.balanced (h : o.Reaches directory d) (hc : d.Clean) : d.Balanced o.entries := by
  induction h with
  | refl => exact Driver.balanced_start o.entries
  | tail _ hs ih =>
    obtain ⟨p, _, hs⟩ := hs
    exact hs.balanced hc (ih (hs.clean_of hc))

/-- A build that succeeds has no tasks left, and ends by declaring its entries. -/
theorem Succeeds.exists_finish (h : o.Succeeds directory s) :
    ∃ d, o.Reaches directory d ∧ d.unread = [] ∧ d.run.pending = [] ∧ d.done = [] ∧
      s = state (declareEntries d.roots) d.run := by
  obtain ⟨d, hd, p, _, hends⟩ := h
  exact ⟨d, hd, hends.finish_of_ok⟩

/-- The sums hold where a build succeeds, with all entries resolved and all claims worked off. -/
theorem Succeeds.balance (h : o.Succeeds directory s) :
    s.Balance o.entries.length [] ∧ s.Tracks ∧ s.Tallied ∧ s.Counted ∧ s.pending = [] := by
  obtain ⟨d, hd, hu, hp, hdone, rfl⟩ := h.exists_finish
  obtain ⟨read, hread, hb⟩ := hd.balanced (Driver.clean_of_done_eq_nil hdone)
  rw [hu, List.length_nil, Nat.add_zero] at hread
  rw [Driver.waiting, hdone, hread] at hb
  refine ⟨hb.declareEntries d.roots, declareEntries_tracks d.roots d.run hd.tracks, ?_⟩
  rw [state_declareEntries]
  exact ⟨hd.tallied, hd.counted, hp⟩

/-- The identities that were claimed are as many as the modules. -/
theorem Succeeds.length_claimed (h : o.Succeeds directory s) :
    s.claimed.length = s.graph.size := by
  obtain ⟨hb, ht, _, _, hp⟩ := h.balance
  rw [ht.length_claimed, hb.size_eq, hp]
  rfl

/-- The counts of a build that succeeds are exact, whatever its plugins answer and in whatever
order its tasks run. -/
theorem Succeeds.accounted (h : o.Succeeds directory s) :
    (o.report s).Accounted o.entries s.requested := by
  obtain ⟨hb, ht, hc, hr, _⟩ := h.balance
  have hle := hb.resolves_le ht hc
  exact
    { requested_eq := hr
      requests_eq := hb.requests_eq
      resolves_eq := hb.resolves_eq_card ht hc hr
      loads_eq := hb.loads_add_externalCount ht hc.2
      modules_eq := rfl
      moduleCount_eq := rfl
      entryCount_eq := rfl
      modules_le := hb.size_le_resolves ht hc
      resolves_le := hle
      cacheHits_eq := Nat.sub_add_cancel hle }

/-- With an entry given twice, a module that imports itself and an external module, four
requests have three keys, and one of two modules is loaded. -/
theorem accounted_circle :
    ∃ directory s, circle.Succeeds directory s ∧
      (circle.report s).Accounted circle.entries s.requested ∧
      (circle.report s).stats = ⟨2, 4, 3, 1⟩ := by
  obtain ⟨report, h, -, hstats⟩ := circle_report
  obtain ⟨directory, s, hs, rfl⟩ := completes_of_build h
  exact ⟨directory, s, hs.succeeds, hs.succeeds.accounted, hstats⟩

end BuildOptions

end BundleGraph
