import BundleGraph.Proofs.Build.Completion
import BundleGraph.Proofs.Run.Schedule

/-!
# Builds of options, step by step

The options say whether imports are followed and how many identities may be claimed.  What
plugins and files answer is another matter: callbacks may keep a state, and files may change
while a build goes on.  So each step of a build has a plan of its own, which agrees with the
options and answers as plugins and files do at that moment.  A step puts no question twice,
since the imports of a module have different specifiers, and a plan is all it takes to say
what a step is answered.

## Main definitions

* `BuildOptions.Admits` — a plan agrees with the options.
* `BuildOptions.Step`, `BuildOptions.Ends` — one step of a build, and how it ends.
* `BuildOptions.Reaches`, `BuildOptions.Succeeds` — where a build comes to.
-/

namespace BundleGraph

open Relation

namespace BuildOptions

/-- The plan agrees with the options; its answers are left open. -/
structure Admits (o : BuildOptions) (p : BuildPlan) : Prop where
  followImports_eq : p.followImports = o.bundle
  maxModules_eq : p.maxModules = o.maxModules

/-- One step of a build, with some answers of plugins and files. -/
def Step (o : BuildOptions) (directory : Path) (d d' : Driver) : Prop :=
  ∃ p, o.Admits p ∧ Driver.Step p directory d d'

/-- How a build ends, and in which state. -/
def Ends (o : BuildOptions) (directory : Path) (d : Driver) (x : Except BuildError Unit)
    (s : RunState) : Prop :=
  ∃ p, o.Admits p ∧ d.Ends p directory x s

/-- In some order of its tasks, the build comes to `d`. -/
def Reaches (o : BuildOptions) (directory : Path) (d : Driver) : Prop :=
  ReflTransGen (o.Step directory) (Driver.start o.entries) d

/-- In some order of its tasks, the build succeeds in the state `s`. -/
def Succeeds (o : BuildOptions) (directory : Path) (s : RunState) : Prop :=
  ∃ d, o.Reaches directory d ∧ o.Ends directory d (.ok ()) s

variable {o : BuildOptions} {directory : Path} {d : Driver}

theorem admits_plan (o : BuildOptions) (registry : Registry) (files : FileSystem) :
    o.Admits (o.plan registry files) :=
  ⟨rfl, rfl⟩

theorem reaches_of_steps {p : BuildPlan} (hp : o.Admits p)
    (h : ReflTransGen (Driver.Step p directory) (Driver.start o.entries) d) :
    o.Reaches directory d :=
  ReflTransGen.mono (fun _ _ hs => ⟨p, hp, hs⟩) _ _ h

/-- Plugins and files that answer alike all the time are a special case. -/
theorem succeeds_of_runs {registry : Registry} {files : FileSystem} {s : RunState}
    (h : (o.plan registry files).Runs directory o.entries (.ok ()) s) : o.Succeeds directory s := by
  obtain ⟨d, hsteps, hends⟩ := h
  have hp := o.admits_plan registry files
  exact ⟨d, reaches_of_steps hp hsteps, _, hp, hends⟩

theorem Completes.succeeds {files : FileSystem} {s : RunState}
    (h : o.Completes files directory s) : o.Succeeds directory s := by
  obtain ⟨registry, _, hruns⟩ := h
  exact succeeds_of_runs hruns

/-- What holds before a build and is kept by every step holds wherever the build stands. -/
theorem reaches_induction {P : RunState → Prop} (hstart : P {})
    (hstep : ∀ {p d d'}, o.Admits p → Driver.Step p directory d d' → P d.run → P d'.run)
    (h : o.Reaches directory d) : P d.run := by
  induction h with
  | refl => exact hstart
  | tail _ hs ih =>
    obtain ⟨p, hp, hs⟩ := hs
    exact hstep hp hs ih

theorem Reaches.tracks (h : o.Reaches directory d) : d.run.Tracks :=
  reaches_induction RunState.tracks_empty (fun _ hs => hs.tracks) h

theorem Reaches.tallied (h : o.Reaches directory d) : d.run.Tallied :=
  reaches_induction ⟨rfl, rfl⟩ (fun _ hs => hs.tallied) h

end BuildOptions

end BundleGraph
