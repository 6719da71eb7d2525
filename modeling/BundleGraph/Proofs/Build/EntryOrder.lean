import BundleGraph.Proofs.Build.Composition
import BundleGraph.Proofs.Build.WithoutPlugins

/-!
# The order of entries without plugins

Without plugins, the order of the entries would not matter if an identity were external or a file
throughout.  It need not be: a listed specifier is external under its own text, which may be the
path of a file that other specifiers lead to.  The first one that is met decides.

When this does not occur, the order of the entries does not matter but for that of the entries in
the graph.

## Main definitions

* `BuildReport.Agrees` — two reports are the same but for the order of entries.
* `BuildOptions.SameOutcome` — two builds fail, or come to reports that agree.
* `BuildOptions.entry_order_unseen` — builds without plugins, when every identity has one flag.
* `BuildOptions.listedFile_order_seen` — a file that is also listed as external.
-/

namespace BundleGraph

/-! ## What entries lead to -/

namespace BuildPlan

variable {p : BuildPlan} {directory : Path} {entries : List String} {s : RunState}

/-- The identity that an entry leads to, if it is resolved. -/
def lead (p : BuildPlan) (directory : Path) (e : String) : ModuleId :=
  match (p.resolve (ResolveRequest.ofEntry e directory)).result with
  | .ok r => r.id
  | .error _ => default

theorem Answers.lead_eq {e : String} {r : Resolution}
    (h : p.Answers (ResolveRequest.ofEntry e directory) r) : p.lead directory e = r.id := by
  rw [lead, h]

/-- The entries of the graph are what the entries lead to, in their order. -/
theorem Complete.entryPoints_eq_lead {read : List (String × Resolution)} {made : List p.Made}
    (hk : p.AnswersByKey) (h : Complete directory entries s read made) :
    s.graph.entryPoints = (entries.map (p.lead directory)).eraseDups := by
  rw [h.entryPoints_eq, h.entries_eq, List.map_map]
  congr 1
  refine List.map_congr_left fun a ha => ?_
  exact (h.answers hk (h.mem_answered_of_read ha)).lead_eq.symm

end BuildPlan

/-! ## Builds of entries in another order -/

/-- Two reports, of builds of two lists of entries, are the same but for the order of entries. -/
structure BuildReport.Agrees (E E' : List String) (r r' : BuildReport) : Prop where
  modules_eq : r.graph.modules = r'.graph.modules
  module?_eq : ∀ i, r.graph.module? i = r'.graph.module? i
  output_eq : r.output = r'.output
  stats_eq : r.stats = r'.stats
  /-- Each lists what its own entries lead to. -/
  entryPoints_eq : ∃ lead : String → ModuleId,
    r.entryPoints = (E.map lead).eraseDups ∧ r'.entryPoints = (E'.map lead).eraseDups

namespace BuildOptions

variable {o : BuildOptions} {files : FileSystem} {directory : Path} {E E' : List String}

/-- Builds of two lists of entries fail, or come to the same but for the order of entries. -/
inductive SameOutcome (E E' : List String) :
    Except BuildError BuildReport → Except BuildError BuildReport → Prop where
  | fail {e e' : BuildError} : SameOutcome E E' (.error e) (.error e')
  | succeed {r r' : BuildReport} (h : r.Agrees E E' r') : SameOutcome E E' (.ok r) (.ok r')

/-- Runs of the same entries, in whatever order of the entries and of the tasks, have the same
outcome. -/
theorem sameOutcome_of_runs (hone : (o.plan {} files).OneFlag directory E) (hE : E.Perm E')
    {x x' : Except BuildError Unit} {s s' : RunState}
    (h : (o.plan {} files).Runs directory E x s) (h' : (o.plan {} files).Runs directory E' x' s') :
    SameOutcome E E' (x.map fun _ => o.report s) (x'.map fun _ => o.report s') := by
  have hk : (o.plan {} files).AnswersByKey := answersByKey_of_files
  have hi := needsById_of_oneFlag hone
  have hi' : (o.plan {} files).NeedsById directory E' := hi.mono hE.symm.subset
  cases x with
  | error e =>
    cases x' with
    | error e' => exact .fail
    | ok u => cases h'.ok_of_subset hk hi' hE.subset h
  | ok u =>
    cases h.ok_of_subset hk hi hE.symm.subset h'
    obtain ⟨read, made, hc⟩ := h.complete
    obtain ⟨read', made', hc'⟩ := h'.complete
    have hsame := hc.sameBuild_of_needsById hk hi' (fun _ => hE.mem_iff) hc'
    have hrequests : s.requests = s'.requests := by
      have hadd := hc.requests_add_length_of_needsById hk hi' (fun _ => hE.mem_iff) hc'
      rw [hE.length_eq] at hadd
      exact Nat.add_right_cancel hadd
    refine .succeed
      { modules_eq := hsame.modules_eq
        module?_eq := hsame.module?_eq
        output_eq := rfl
        stats_eq := ?_
        entryPoints_eq := ⟨_, hc.entryPoints_eq_lead hk, hc'.entryPoints_eq_lead hk⟩ }
    change s.stats = s'.stats
    rw [hsame.stats_eq, RunState.stats, RunState.stats, hrequests]

/-- The checks on options do not see the order of entries. -/
theorem validate_on_congr (hE : E.Perm E') : (o.on E).validate = (o.on E').validate := by
  have hentries : ∀ A, (o.on A).entries = A := fun _ => rfl
  rw [validate, validate, hentries, hentries, hE.isEmpty_eq, hE.any_eq, hE.length_eq]
  rfl

/-- Without plugins, when every identity has one flag, the order of entries does not matter: the
builds of two orders fail, or come to the same but for the order of entries. -/
theorem entry_order_unseen (hp : o.plugins = []) (hE : E.Perm E')
    (hone : ∀ directory, o.directory files = .ok directory →
      (o.plan {} files).OneFlag directory E) :
    SameOutcome E E' ((o.on E).build files).result ((o.on E').build files).result ∧
      ∀ directory x s x' s', (o.on E).ComesTo files directory x s →
        (o.on E').ComesTo files directory x' s' →
          SameOutcome E E' (x.map fun _ => o.report s) (x'.map fun _ => o.report s') := by
  have hregistered : (Registry.ofSetups o.plugins).result = .ok {} := by
    rw [hp]
    rfl
  constructor
  · cases hv : (o.on E).validate with
    | error e =>
      rw [result_build_of_invalid hv, result_build_of_invalid ((validate_on_congr hE).symm.trans hv)]
      exact .fail
    | ok u =>
      have hv' := (validate_on_congr hE).symm.trans hv
      rw [result_build_of_registered hv hregistered, result_build_of_registered hv' hregistered]
      change SameOutcome E E' ((o.directory files).bind _) ((o.directory files).bind _)
      cases hd : o.directory files with
      | error e => exact .fail
      | ok directory =>
        exact sameOutcome_of_runs (hone directory hd) hE (BuildPlan.runs_build _ directory E)
          (BuildPlan.runs_build _ directory E')
  · rintro directory x s x' s' ⟨registry, hstarts, hruns⟩ ⟨registry', hstarts', hruns'⟩
    cases hstarts.registered.symm.trans hregistered
    cases hstarts'.registered.symm.trans hregistered
    exact sameOutcome_of_runs (hone directory hstarts.located) hE hruns hruns'

/-- A text in the directory of an application. -/
def appFiles : FileSystem :=
  (MemoryFiles.insert ⟨⟨"/app"⟩, []⟩ ⟨"a.txt"⟩ "text".toUTF8).fileSystem

/-- A file, and a name that is listed as external. -/
def listedName : BuildOptions where
  entries := ["./a.txt", "react"]
  external := ["react"]

/-- A file and a listed name may be given in either order. -/
theorem listedName_order_unseen :
    ∃ r r', (listedName.build appFiles).result = .ok r ∧
      ((listedName.on ["react", "./a.txt"]).build appFiles).result = .ok r' ∧
      r.graph.statistics = ⟨2, 1, 2, 0⟩ ∧
      r.Agrees ["./a.txt", "react"] ["react", "./a.txt"] r' := by
  obtain ⟨r, r', h, h', hcounts⟩ : ∃ r r', (listedName.build appFiles).result = .ok r ∧
      ((listedName.on ["react", "./a.txt"]).build appFiles).result = .ok r' ∧
      r.graph.statistics = ⟨2, 1, 2, 0⟩ :=
    ⟨_, _, build_ok_iff.mpr ⟨{}, ⟨"/app"⟩, ⟨by decide, rfl, rfl⟩, by decide +kernel, rfl⟩,
      build_ok_iff.mpr ⟨{}, ⟨"/app"⟩, ⟨by decide, rfl, rfl⟩, by decide +kernel, rfl⟩,
      by decide +kernel⟩
  have hone : ∀ directory, listedName.directory appFiles = .ok directory →
      (listedName.plan {} appFiles).OneFlag directory ["./a.txt", "react"] := by
    intro directory hd
    cases hd
    exact oneFlag_of_bare (by decide) (by decide)
  have hsame := (entry_order_unseen (o := listedName) rfl (List.Perm.swap "react" "./a.txt" [])
    hone).1
  change SameOutcome _ _ (listedName.build appFiles).result _ at hsame
  rw [h, h'] at hsame
  cases hsame with
  | succeed hagrees => exact ⟨r, r', h, h', hcounts, hagrees⟩

/-- A file that is listed as external under its path. -/
def listedFile : BuildOptions where
  entries := ["/app/a.txt", "./a.txt"]
  external := ["/app/a.txt"]

/-- A file that is listed as external under its path is external when that path comes first, and a
file when it comes after another specifier for the file. -/
theorem listedFile_order_seen :
    listedFile.plugins = [] ∧ ["/app/a.txt", "./a.txt"].Perm ["./a.txt", "/app/a.txt"] ∧
      ∃ r r', (listedFile.build appFiles).result = .ok r ∧
        ((listedFile.on ["./a.txt", "/app/a.txt"]).build appFiles).result = .ok r' ∧
        (r.graph.module? ⟨"/app/a.txt", "file"⟩).map Module.isExternal = some true ∧
        (r'.graph.module? ⟨"/app/a.txt", "file"⟩).map Module.isExternal = some false ∧
        ¬ SameOutcome ["/app/a.txt", "./a.txt"] ["./a.txt", "/app/a.txt"]
          (listedFile.build appFiles).result
          ((listedFile.on ["./a.txt", "/app/a.txt"]).build appFiles).result := by
  obtain ⟨r, r', h, h', hr, hr'⟩ : ∃ r r', (listedFile.build appFiles).result = .ok r ∧
      ((listedFile.on ["./a.txt", "/app/a.txt"]).build appFiles).result = .ok r' ∧
      (r.graph.module? ⟨"/app/a.txt", "file"⟩).map Module.isExternal = some true ∧
      (r'.graph.module? ⟨"/app/a.txt", "file"⟩).map Module.isExternal = some false :=
    ⟨_, _, build_ok_iff.mpr ⟨{}, ⟨"/app"⟩, ⟨by decide, rfl, rfl⟩, by decide +kernel, rfl⟩,
      build_ok_iff.mpr ⟨{}, ⟨"/app"⟩, ⟨by decide, rfl, rfl⟩, by decide +kernel, rfl⟩,
      by decide +kernel, by decide +kernel⟩
  refine ⟨rfl, List.Perm.swap _ _ [], r, r', h, h', hr, hr', fun hsame => ?_⟩
  rw [h, h'] at hsame
  cases hsame with
  | succeed hagrees =>
    rw [hagrees.module?_eq, hr'] at hr
    cases hr

end BuildOptions

end BundleGraph
