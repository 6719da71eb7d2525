import BundleGraph.Proofs.Build.Accounting
import BundleGraph.Proofs.Build.Closure
import BundleGraph.Proofs.Run.Limit

/-!
# The limit on modules is an exact threshold

Whether a build fits into its limit is decided by the number of its modules.  A build that
succeeds gives the same report under every limit from that number on, and under every smaller
one it fails with that limit as its error.  Identities that come up again are not counted, or
some limit would be called too small that is not.

## Main definitions

* `BuildOptions.build_limit_threshold` — the build of options under other limits.
-/

namespace BundleGraph

open Run

namespace BuildOptions

variable {o : BuildOptions} {files : FileSystem} {registry : Registry} {directory : Path} {k : ℕ}

/-- Any limit but zero passes the checks on options. -/
theorem Starts.withLimit (h : o.Starts files registry directory) (hk : k ≠ 0) :
    ({ o with maxModules := k } : BuildOptions).Starts files registry directory where
  valid := by
    have hv := h.valid
    unfold validate at hv ⊢
    split_ifs at hv ⊢
    rfl
  registered := h.registered
  located := h.located

/-- Under another limit, the run is that of the plan with the limit. -/
theorem result_build_withLimit (h : o.Starts files registry directory) (hk : k ≠ 0) :
    (({ o with maxModules := k } : BuildOptions).build files).result =
      (value (Run.build ((o.plan registry files).withLimit k) o.entries directory) {}).map fun _ =>
        o.report (state (Run.build ((o.plan registry files).withLimit k) o.entries directory) {}) :=
  result_build (h.withLimit hk)

/-- A build that succeeds has a module, since it has an entry. -/
theorem Completes.size_pos {s : RunState} (h : o.Completes files directory s) :
    0 < s.graph.size := by
  obtain ⟨registry, hstarts, hruns⟩ := h
  obtain ⟨read, made, hc⟩ := hruns.complete
  have hentries : o.entries ≠ [] := by
    have hv := hstarts.valid
    intro hnil
    rw [validate, hnil] at hv
    cases hv
  obtain ⟨a, ha⟩ := List.exists_mem_of_ne_nil read fun hnil => by
    rw [hc.entries_eq, hnil] at hentries
    exact hentries rfl
  obtain ⟨m, hm, _⟩ := hc.exists_node (hc.mem_answered_of_read ha)
  exact List.length_pos_of_mem hm

/-- A build that succeeds with some modules gives the same report when the limit is at least
their number.  When it is smaller, and not zero, the build fails with that limit. -/
theorem build_limit_threshold {report : BuildReport} (h : (o.build files).result = .ok report)
    (k : ℕ) :
    (report.graph.size ≤ k →
        (({ o with maxModules := k } : BuildOptions).build files).result = .ok report) ∧
      (1 ≤ k → k < report.graph.size →
        (({ o with maxModules := k } : BuildOptions).build files).result =
          .error (.tooManyModules k)) := by
  obtain ⟨registry, directory, hstarts, hv, rfl⟩ := build_ok_iff.mp h
  have hcompletes : o.Completes files directory
      (state (Run.build (o.plan registry files) o.entries directory) {}) := by
    refine ⟨registry, hstarts, ?_⟩
    rw [← hv]
    exact BuildPlan.runs_build _ directory o.entries
  have hsize := hcompletes.succeeds.length_claimed
  have hpos := hcompletes.size_pos
  -- Under its own limit, the plan of the options is the plan itself.
  have hown : value (Run.build ((o.plan registry files).withLimit o.maxModules) o.entries
      directory) {} = .ok () := hv
  constructor
  · intro hk
    obtain ⟨hvk, hsk⟩ := build_of_le_limit hown (hsize.trans_le hk)
    rw [result_build_withLimit hstarts (Nat.ne_zero_of_lt (hpos.trans_le hk)), hvk, hsk]
    rfl
  · intro hk hlt
    have hvk := build_of_limit_lt hown (hlt.trans_eq hsize.symm)
    rw [result_build_withLimit hstarts (Nat.ne_zero_of_lt hk), hvk]
    rfl

/-- The build of two modules succeeds with room for two, and fails with room for one. -/
theorem build_limit_threshold_circle :
    ∃ files report, (circle.build files).result = .ok report ∧ report.graph.size = 2 ∧
      (({ circle with maxModules := 2 } : BuildOptions).build files).result = .ok report ∧
      (({ circle with maxModules := 1 } : BuildOptions).build files).result =
        .error (.tooManyModules 1) := by
  obtain ⟨report, h, hcounts⟩ := circle_ok
  have hsize : report.graph.size = 2 := congrArg GraphStatistics.moduleCount hcounts
  refine ⟨_, report, h, hsize, (build_limit_threshold h 2).1 ?_, ?_⟩
  · exact hsize.le
  · exact (build_limit_threshold h 1).2 (Nat.le_refl 1) (by rw [hsize]; decide)

end BuildOptions

end BundleGraph
