import BundleGraph.Proofs.Build.Steps
import BundleGraph.Proofs.Run.Progress
import Mathlib

/-!
# A build ends within its limit

A build whose plugins answer every question ends, whatever they answer: with new identities
for ever, or with the same ones in a circle.  It makes no more than two steps for each identity
that may be claimed and one for each entry, and where it can make no more it has ended.  No
more tasks run than identities may be claimed, and the loaders are walked no more often.

## Main definitions

* `BuildOptions.InBounds` — a build is within its limit, and goes on or ends.
* `BuildOptions.ends_within_limit` — this holds of every build, which makes finitely many steps.
-/

namespace BundleGraph

open Run

namespace BuildOptions

variable {o : BuildOptions} {directory : Path} {d d' : Driver} {ds : List Driver}

theorem Step.capped (h : o.Step directory d d')
    (hd : d.run.claimed.length ≤ o.maxModules) : d'.run.claimed.length ≤ o.maxModules := by
  obtain ⟨p, hp, hs⟩ := h
  rw [← hp.maxModules_eq] at hd ⊢
  exact hs.capped hd

theorem Reaches.capped (h : o.Reaches directory d) : d.run.claimed.length ≤ o.maxModules := by
  induction h with
  | refl => exact Nat.zero_le _
  | tail _ hs ih => exact hs.capped ih

theorem Reaches.capped_of_admits (h : o.Reaches directory d) {p : BuildPlan} (hp : o.Admits p) :
    Driver.Capped p d.run := by
  rw [Driver.Capped, hp.maxModules_eq]
  exact h.capped

/-- A build stands within its limit, and it goes on or ends. -/
structure InBounds (o : BuildOptions) (directory : Path) (d : Driver) : Prop where
  bounded : d.run.Bounded o.maxModules
  /-- Also when some of the claims of a task are made. -/
  claims : ∀ p rs, o.Admits p → (state (claimAll p rs) d.run).Bounded o.maxModules
  /-- Also where the build ends. -/
  ends : ∀ x s, o.Ends directory d x s → s.Bounded o.maxModules
  /-- Whatever plugins and files answer, there is a step or an end. -/
  progress : ∀ p, o.Admits p →
    (∃ d', Driver.Step p directory d d') ∨ ∃ x s, d.Ends p directory x s

theorem Reaches.inBounds (h : o.Reaches directory d) : o.InBounds directory d where
  bounded := h.tracks.bounded h.tallied.2 h.capped
  claims := by
    intro p rs hp
    have ht := claimAll_within (claim_tracks p) rs d.run h.tracks
    have hl : (state (claimAll p rs) d.run).Tallied :=
      claimAll_within (claim_within_of_withClaims fun _ _ hs => hs) rs d.run h.tallied
    have hc := claimAll_within (Driver.claim_capped p) rs d.run (h.capped_of_admits hp)
    rw [← hp.maxModules_eq]
    exact ht.bounded hl.2 hc
  ends := by
    rintro x s ⟨p, hp, hends⟩
    have hc := hends.capped (h.capped_of_admits hp)
    rw [← hp.maxModules_eq]
    exact (hends.tracks h.tracks).bounded (hends.tallied h.tallied).2 hc
  progress := fun p _ => d.progress p directory

/-- Every step leaves fewer. -/
theorem Step.left_lt (h : o.Step directory d d') (hd : o.Reaches directory d) :
    d'.left o.maxModules < d.left o.maxModules := by
  obtain ⟨p, hp, hs⟩ := h
  rw [← hp.maxModules_eq]
  exact hs.left_lt hd.tracks (hd.capped_of_admits hp)

/-- A build makes no more steps than are left where it stands. -/
theorem Reaches.length_le_left (hd : o.Reaches directory d)
    (h : List.IsChain (o.Step directory) (d :: ds)) : ds.length ≤ d.left o.maxModules := by
  induction ds generalizing d with
  | nil => exact Nat.zero_le _
  | cons d' ds ih =>
    obtain ⟨hs, h⟩ := List.isChain_cons_cons.mp h
    have hlt := hs.left_lt hd
    have hle := ih (hd.tail hs) h
    rw [List.length_cons]
    omega

/-- Wherever a build stands, it has come there by steps. -/
theorem reaches_of_mem (h : List.IsChain (o.Step directory) (Driver.start o.entries :: ds))
    (hd : d ∈ Driver.start o.entries :: ds) : o.Reaches directory d :=
  h.induction (o.Reaches directory) _ (fun _ _ hs hr => hr.tail hs) (fun _ => .refl) d hd

/-- Whatever plugins and files answer, and in whatever order the tasks run, a build makes a
bounded number of steps, stays within its limit all the time, and can always go on until it
ends. -/
theorem ends_within_limit
    (h : List.IsChain (o.Step directory) (Driver.start o.entries :: ds)) :
    ds.length ≤ o.entries.length + 2 * o.maxModules ∧
      ∀ d ∈ Driver.start o.entries :: ds, o.InBounds directory d := by
  constructor
  · exact Reaches.length_le_left .refl h
  · intro d hd
    exact (reaches_of_mem h hd).inBounds

/-- A build of one entry, with a plugin that makes every module import a new one. -/
def endless : BuildOptions where
  entries := ["x"]
  maxModules := 3
  plugins := [[
    ⟨.setName "endless", false⟩,
    ⟨.addResolver ⟨"", none⟩ none fun q =>
      .ok (some { path := q.specifier, space := some "memory" }), false⟩,
    ⟨.addLoader ⟨"", some "memory"⟩ none fun q =>
      .ok (some { text := "@import '" ++ q.id.path ++ "x'", kind := some .css }), false⟩]]

/-- With room for three identities, three tasks run, and the fourth identity ends the build. -/
theorem ends_within_limit_endless :
    ∃ directory ds d s, List.IsChain (endless.Step directory) (Driver.start endless.entries :: ds) ∧
      d ∈ Driver.start endless.entries :: ds ∧
      endless.Ends directory d (.error (.tooManyModules 3)) s ∧ s.begun.length = 3 ∧
      ds.length ≤ endless.entries.length + 2 * endless.maxModules ∧
      ∀ d ∈ Driver.start endless.entries :: ds, endless.InBounds directory d := by
  let files := MemoryFiles.fileSystem ⟨⟨"/"⟩, []⟩
  have hregistry : ∃ registry, (Registry.ofSetups endless.plugins).result = .ok registry ∧
      value (Run.build (endless.plan registry files) endless.entries ⟨"/"⟩) {} =
        .error (.tooManyModules 3) ∧
      (state (Run.build (endless.plan registry files) endless.entries ⟨"/"⟩) {}).begun.length = 3 :=
    ⟨_, rfl, by cbv, by cbv⟩
  obtain ⟨registry, _, hv, hb⟩ := hregistry
  have hp := endless.admits_plan registry files
  obtain ⟨d, hsteps, hends⟩ := (endless.plan registry files).runs_build ⟨"/"⟩ endless.entries
  rw [hv] at hends
  obtain ⟨ds, hchain, hlast⟩ :=
    List.exists_isChain_cons_of_relationReflTransGen (reaches_of_steps hp hsteps)
  have hd : d ∈ Driver.start endless.entries :: ds := hlast ▸ List.getLast_mem _
  exact ⟨_, ds, d, _, hchain, hd, ⟨_, hp, hends⟩, hb, ends_within_limit hchain⟩

end BuildOptions

end BundleGraph
