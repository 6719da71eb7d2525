import BundleGraph.Build.Report
import BundleGraph.FileSystem.Memory
import BundleGraph.Proofs.Run.Schedule
import Mathlib

/-!
# Builds of options that succeed

A build that succeeds has checked its options, registered its plugins, found the directory of
its entries, and run to its end.  The run may take the tasks in any order; `BuildOptions.build`
takes the first one claimed.

## Main definitions

* `BuildOptions.Starts` — what a build does before its run.
* `BuildOptions.ComesTo` — what a build comes to in some order of its tasks.
* `BuildOptions.Completes` — in some order of its tasks, the build succeeds.
* `BuildOptions.build_ok_iff` — when `BuildOptions.build` succeeds, and with what.
-/

namespace BundleGraph.BuildOptions

/-- What a build does before its run went well. -/
structure Starts (o : BuildOptions) (files : FileSystem) (registry : Registry)
    (directory : Path) : Prop where
  valid : o.validate = .ok ()
  registered : (Registry.ofSetups o.plugins).result = .ok registry
  located : o.directory files = .ok directory

/-- In some order of its tasks, the build comes to `x` in the state `s`. -/
def ComesTo (o : BuildOptions) (files : FileSystem) (directory : Path)
    (x : Except BuildError Unit) (s : RunState) : Prop :=
  ∃ registry, o.Starts files registry directory ∧
    (o.plan registry files).Runs directory o.entries x s

/-- In some order of its tasks, the build succeeds in the state `s`. -/
def Completes (o : BuildOptions) (files : FileSystem) (directory : Path) (s : RunState) : Prop :=
  ∃ registry, o.Starts files registry directory ∧
    (o.plan registry files).Runs directory o.entries (.ok ()) s

/-- The state that a run reaches, when it ends well. -/
theorem result_ofResult (m : Run Unit) (s : RunState) :
    (RunState.ofResult (m.run s)).result =
      (Run.value m s).map fun _ => Run.state m s := by
  rw [Run.value, Run.state]
  cases m.run s with
  | ok u t => rfl
  | error e t => rfl

theorem execute_ok_iff {p : BuildPlan} {entries : List String} {directory : Path}
    {s : RunState} :
    (p.execute entries directory).result = .ok s ↔
      Run.value (Run.build p entries directory) {} = .ok () ∧
        s = Run.state (Run.build p entries directory) {} := by
  rw [BuildPlan.execute, result_ofResult]
  cases Run.value (Run.build p entries directory) {} with
  | ok u => simp [Except.map, eq_comm]
  | error e => simp [Except.map]

/-- A build that can start comes to what its run comes to. -/
theorem result_build {o : BuildOptions} {files : FileSystem} {registry : Registry}
    {directory : Path} (h : o.Starts files registry directory) :
    (o.build files).result =
      (Run.value (Run.build (o.plan registry files) o.entries directory) {}).map fun _ =>
        o.report (Run.state (Run.build (o.plan registry files) o.entries directory) {}) := by
  rw [build]
  simp only [Work.result_bind, Work.result_ofExcept, Work.result_tell, Work.result_pure, h.valid,
    h.registered, h.located, BuildPlan.execute, result_ofResult, Except.bind]
  cases Run.value (Run.build (o.plan registry files) o.entries directory) {} with
  | ok u => rfl
  | error e => rfl

/-- A build whose options are at fault fails with the fault. -/
theorem result_build_of_invalid {o : BuildOptions} {files : FileSystem} {e : BuildError}
    (hv : o.validate = .error e) : (o.build files).result = .error e := by
  rw [build, Work.result_bind, Work.result_ofExcept, hv]
  rfl

/-- A build with its plugins registered comes to what its directory and its run come to. -/
theorem result_build_of_registered {o : BuildOptions} {files : FileSystem} {registry : Registry}
    (hv : o.validate = .ok ()) (hr : (Registry.ofSetups o.plugins).result = .ok registry) :
    (o.build files).result =
      (o.directory files).bind fun directory =>
        (Run.value (Run.build (o.plan registry files) o.entries directory) {}).map fun _ =>
          o.report (Run.state (Run.build (o.plan registry files) o.entries directory) {}) := by
  cases hd : o.directory files with
  | ok directory => exact result_build ⟨hv, hr, hd⟩
  | error e =>
    rw [build]
    simp only [Work.result_bind, Work.result_ofExcept, hv, hr, hd, Except.bind]

/-- A build fails with its options, its plugins, its directory or its run. -/
theorem error_of_build {o : BuildOptions} {files : FileSystem} {e : BuildError}
    (h : (o.build files).result = .error e) :
    o.validate = .error e ∨ (Registry.ofSetups o.plugins).result = .error e ∨
      o.directory files = .error e ∨ ∃ registry directory, o.Starts files registry directory ∧
        Run.value (Run.build (o.plan registry files) o.entries directory) {} = .error e := by
  cases hv : o.validate with
  | error x =>
    rw [result_build_of_invalid hv] at h
    cases h
    exact .inl rfl
  | ok u =>
    cases hr : (Registry.ofSetups o.plugins).result with
    | error x =>
      rw [build, Work.result_bind, Work.result_ofExcept, hv] at h
      simp only [Except.bind, Work.result_bind, hr] at h
      cases h
      exact .inr (.inl rfl)
    | ok registry =>
      rw [result_build_of_registered hv hr] at h
      cases hd : o.directory files with
      | error x =>
        rw [hd] at h
        cases h
        exact .inr (.inr (.inl rfl))
      | ok directory =>
        rw [hd] at h
        refine .inr (.inr (.inr ⟨registry, directory, ⟨hv, hr, hd⟩, ?_⟩))
        cases hx : Run.value (Run.build (o.plan registry files) o.entries directory) {} with
        | ok u => simp only [Except.bind, hx] at h; cases h
        | error x => simp only [Except.bind, hx] at h; cases h; rfl

/-- A build succeeds when it can start and its run succeeds. -/
theorem build_ok_iff {o : BuildOptions} {files : FileSystem} {report : BuildReport} :
    (o.build files).result = .ok report ↔
      ∃ registry directory, o.Starts files registry directory ∧
        Run.value (Run.build (o.plan registry files) o.entries directory) {} = .ok () ∧
        report =
          o.report (Run.state (Run.build (o.plan registry files) o.entries directory) {}) := by
  constructor
  · intro h
    obtain ⟨_, hvalid, h⟩ := Work.result_bind_ok h
    obtain ⟨registry, hregistry, h⟩ := Work.result_bind_ok h
    obtain ⟨directory, hdirectory, h⟩ := Work.result_bind_ok h
    obtain ⟨_, _, h⟩ := Work.result_bind_ok h
    obtain ⟨s, hs, h⟩ := Work.result_bind_ok h
    obtain ⟨_, _, h⟩ := Work.result_bind_ok h
    cases h
    obtain ⟨hv, rfl⟩ := execute_ok_iff.mp hs
    exact ⟨registry, directory, ⟨hvalid, hregistry, hdirectory⟩, hv, rfl⟩
  · rintro ⟨registry, directory, hstarts, hv, rfl⟩
    rw [result_build hstarts, hv]
    rfl

/-- The order of `BuildOptions.build` is one of the orders. -/
theorem Starts.completes {o : BuildOptions} {files : FileSystem} {registry : Registry}
    {directory : Path} (h : o.Starts files registry directory)
    (hv : Run.value (Run.build (o.plan registry files) o.entries directory) {} = .ok ()) :
    o.Completes files directory
      (Run.state (Run.build (o.plan registry files) o.entries directory) {}) := by
  refine ⟨registry, h, ?_⟩
  rw [← hv]
  exact BuildPlan.runs_build _ directory o.entries

theorem completes_of_build {o : BuildOptions} {files : FileSystem} {report : BuildReport}
    (h : (o.build files).result = .ok report) :
    ∃ directory s, o.Completes files directory s ∧ report = o.report s := by
  obtain ⟨registry, directory, hstarts, hv, rfl⟩ := build_ok_iff.mp h
  exact ⟨directory, _, hstarts.completes hv, rfl⟩

/-- A build of one entry given twice, with a plugin that resolves and loads everything.  Each
module imports `circle` and `outside`, and `outside` is external. -/
def circle : BuildOptions where
  entries := ["circle", "circle"]
  plugins := [[
    ⟨.setName "circle", false⟩,
    ⟨.addResolver ⟨"", none⟩ none fun q =>
      .ok (some {
        path := q.specifier
        space := some "memory"
        external := q.specifier == "outside" }), false⟩,
    ⟨.addLoader ⟨"", some "memory"⟩ none fun _ =>
      .ok (some { text := "@import 'circle'; @import 'outside'", kind := some .css }), false⟩]]

/-- The build makes two modules of four requests with three keys, with no files at all. -/
theorem circle_report :
    ∃ report, (circle.build (MemoryFiles.fileSystem ⟨⟨"/"⟩, []⟩)).result = .ok report ∧
      report.graph.statistics = ⟨2, 1, 1, 2⟩ ∧ report.stats = ⟨2, 4, 3, 1⟩ := by
  refine ⟨_, build_ok_iff.mpr ⟨_, ⟨"/"⟩, ⟨by decide, rfl, rfl⟩, ?_, rfl⟩, ?_, ?_⟩
  · cbv
  · cbv
  · cbv

/-- The build succeeds, with no files at all. -/
theorem circle_ok :
    ∃ report, (circle.build (MemoryFiles.fileSystem ⟨⟨"/"⟩, []⟩)).result = .ok report ∧
      report.graph.statistics = ⟨2, 1, 1, 2⟩ := by
  obtain ⟨report, h, hcounts, -⟩ := circle_report
  exact ⟨report, h, hcounts⟩

end BundleGraph.BuildOptions
