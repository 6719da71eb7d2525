import BundleGraph.Proofs.Build.FileProbes

/-!
# Directories that are imported

A specifier that leads to a directory is answered with the index file of the directory, in however
many ways the directory may be spelled.  The index files are tried after the extensions, and those
are put to the last name of the path.  The root has no name, and is given up before its index files
are tried.

## Main definitions

* `Path.eq_root_of_nameless` — of absolute clean paths, only the root has no name.
* `MemoryFiles.probe?_of_directory` — what a directory leads to.
* `MemoryFiles.directory_answered_unless_root` — its index file is the answer, unless it is the
  root.
-/

namespace BundleGraph

/-- Of absolute clean paths, only the root has no name. -/
theorem Path.eq_root_of_nameless {p : Path} (hc : p.clean = p) (habs : p.isAbsolute = true)
    (hn : p.fileName? = none) : p = ⟨"/"⟩ := by
  rcases p.clean_eq_dot_or with hdot | ⟨cs, -, htidy, hcs⟩
  · rw [← hc, hdot] at habs
    cases habs
  · rw [hc] at hcs
    have hcomponents : p.components = cs := by rw [hcs, components_ofComponents htidy]
    obtain ⟨rest, -, hroot⟩ := components_of_isAbsolute habs
    have hmem : Component.root ∈ cs.reverse := by
      rw [← hcomponents, hroot, List.mem_reverse]
      exact List.mem_cons_self
    cases hlast : cs.reverse with
    | nil => rw [hlast] at hmem; cases hmem
    | cons c done =>
      rw [hlast] at htidy hmem
      cases c with
      | root =>
        have hdone : done = [] := htidy
        rw [hdone] at hlast
        rw [hcs, List.reverse_eq_iff.mp hlast]
        rfl
      | current => exact htidy.elim
      | parent =>
        -- Below double dots there is nothing else, not even the root.
        rcases List.mem_cons.mp hmem with h | h
        · cases h
        · cases htidy _ h
      | normal name =>
        rw [fileName?, hcomponents, ← List.head?_reverse, hlast] at hn
        cases hn

namespace MemoryFiles

variable {m : MemoryFiles} {external : List String} {q : ResolveRequest} {p d : Path}

/-- A directory leads to its first index file, unless it is the root. -/
theorem probe?_of_directory (hc : d.clean = d) (habs : d.isAbsolute = true)
    (hfile : ¬ m.Stores d)
    (hext : ∀ ext ∈ probedExtensions, ¬ m.Stores ⟨d.text ++ ("." ++ ext)⟩) :
    (m.resolver external).probe? d =
      if d = ⟨"/"⟩ then none else (FileResolver.indexes d).find? m.isFile := by
  have hd : ¬ m.isFile d = true := fun h => hfile (isFile_iff.mp h)
  cases hn : d.fileName? with
  | none =>
    rw [FileResolver.probe?_of_nameless hn, if_pos (Path.eq_root_of_nameless hc habs hn)]
    exact if_neg hd
  | some name =>
    have hroot : d ≠ ⟨"/"⟩ := by
      rintro rfl
      have hnone : (⟨"/"⟩ : Path).fileName? = none := by decide +kernel
      rw [hnone] at hn
      cases hn
    have hextended : (FileResolver.extended d name).find? m.isFile = none := by
      refine List.find?_eq_none.mpr fun f hf h => ?_
      obtain ⟨ext, hmem, rfl⟩ := List.mem_map.mp hf
      rw [(FileResolver.withFileName_eq hc hn hmem).1] at h
      exact hext ext hmem (isFile_iff.mp h)
    rw [probe?_eq_find? hc hn, FileResolver.spellings_eq hc hn, List.find?_cons_of_neg hd,
      List.find?_append, hextended, Option.none_or, if_neg hroot]

/-- A specifier that leads to an absolute directory with an index file, where neither the directory
nor the directory with an extension is a file, is answered with the first index file that is
stored, unless the directory is the root.  The root has no answer. -/
theorem directory_answered_unless_root (hlisted : ¬ Listed external q.specifier)
    (hp : MeansPath q.directory q.specifier p) (hd : p.clean = d) (habs : d.isAbsolute = true)
    (hindex : ∃ f ∈ FileResolver.indexes d, m.Stores f) (hfile : ¬ m.Stores d)
    (hext : ∀ ext ∈ probedExtensions, ¬ m.Stores ⟨d.text ++ ("." ++ ext)⟩) :
    ∃ f, m.FirstStored (FileResolver.indexes d) (some f) ∧
      ((m.resolver external).resolve q).result =
        .ok (if d = ⟨"/"⟩ then none else some { path := f.text }) := by
  have hclean : d.clean = d := by rw [← hd, Path.clean_clean]
  have hsome : ((FileResolver.indexes d).find? m.isFile).isSome = true := by
    obtain ⟨f, hf, hstored⟩ := hindex
    exact List.find?_isSome.mpr ⟨f, hf, isFile_iff.mpr hstored⟩
  obtain ⟨f, hf⟩ := Option.isSome_iff_exists.mp hsome
  refine ⟨f, firstStored_iff.mpr hf, ?_⟩
  rw [FileResolver.result_resolve_means hlisted hp, hd, FileResolver.targetOf?,
    probe?_of_directory hclean habs hfile hext, hf]
  split <;> rfl

/-- Two index files in a directory, and a file that does not stand for it. -/
def indexedApp : MemoryFiles :=
  ((MemoryFiles.insert ⟨⟨"/"⟩, []⟩ ⟨"/app/index.js"⟩ "1".toUTF8).insert
    ⟨"/app/index.ts"⟩ "2".toUTF8).insert ⟨"/app.md"⟩ "3".toUTF8

/-- The directory is found from within, by way of another. -/
theorem indexedApp_answered :
    let p := (⟨"/app"⟩ : Path).join ⟨"./sub/.."⟩
    ¬ Listed ["react"] "./sub/.." ∧ MeansPath (some ⟨"/app"⟩) "./sub/.." p ∧ p.clean = ⟨"/app"⟩ ∧
      (⟨"/app"⟩ : Path).isAbsolute = true ∧
      (∃ f ∈ FileResolver.indexes ⟨"/app"⟩, indexedApp.Stores f) ∧ ¬ indexedApp.Stores ⟨"/app"⟩ ∧
      (∀ ext ∈ probedExtensions, ¬ indexedApp.Stores ⟨"/app" ++ ("." ++ ext)⟩) ∧
      ∃ f, indexedApp.FirstStored (FileResolver.indexes ⟨"/app"⟩) (some f) ∧
        ((indexedApp.resolver ["react"]).resolve (.ofEntry "./sub/.." ⟨"/app"⟩)).result =
          .ok (if (⟨"/app"⟩ : Path) = ⟨"/"⟩ then none else some { path := f.text }) := by
  have hlisted : ¬ Listed ["react"] "./sub/.." := by
    rw [← isExternal_iff]
    decide +kernel
  have hp : MeansPath (some ⟨"/app"⟩) "./sub/.." ((⟨"/app"⟩ : Path).join ⟨"./sub/.."⟩) :=
    .relative (isRelative_iff.mp (by decide +kernel)) rfl
  have hd : ((⟨"/app"⟩ : Path).join ⟨"./sub/.."⟩).clean = ⟨"/app"⟩ := by decide +kernel
  have habs : (⟨"/app"⟩ : Path).isAbsolute = true := by decide +kernel
  have hindex : ∃ f ∈ FileResolver.indexes ⟨"/app"⟩, indexedApp.Stores f :=
    ⟨⟨"/app/index.js"⟩, by decide +kernel, isFile_iff.mp (by decide +kernel)⟩
  have hfile : ¬ indexedApp.Stores ⟨"/app"⟩ := by
    rw [← isFile_iff]
    decide +kernel
  have hext : ∀ ext ∈ probedExtensions, ¬ indexedApp.Stores ⟨"/app" ++ ("." ++ ext)⟩ := by
    simp only [← isFile_iff]
    decide +kernel
  exact ⟨hlisted, hp, hd, habs, hindex, hfile, hext,
    directory_answered_unless_root hlisted hp hd habs hindex hfile hext⟩

/-- One index file, in the root. -/
def indexedRoot : MemoryFiles :=
  MemoryFiles.insert ⟨⟨"/"⟩, []⟩ ⟨"/index.js"⟩ "1".toUTF8

/-- The index file of the root is stored, and the root is not found. -/
theorem indexedRoot_not_answered :
    ¬ Listed [] "/" ∧ MeansPath (some ⟨"/"⟩) "/" ⟨"/"⟩ ∧ (⟨"/"⟩ : Path).clean = ⟨"/"⟩ ∧
      (⟨"/"⟩ : Path).isAbsolute = true ∧
      (⟨"/index.js"⟩ ∈ FileResolver.indexes ⟨"/"⟩ ∧ indexedRoot.Stores ⟨"/index.js"⟩) ∧
      ¬ indexedRoot.Stores ⟨"/"⟩ ∧
      (∀ ext ∈ probedExtensions, ¬ indexedRoot.Stores ⟨"/" ++ ("." ++ ext)⟩) ∧
      ((indexedRoot.resolver []).resolve (.ofEntry "/" ⟨"/"⟩)).result = .ok none := by
  simp only [← isFile_iff, ← isExternal_iff]
  refine ⟨by decide +kernel, .absolute (by decide +kernel), by decide +kernel, by decide +kernel,
    by decide +kernel, by decide +kernel, by decide +kernel, by decide +kernel⟩

end MemoryFiles

end BundleGraph
