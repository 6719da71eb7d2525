import BundleGraph.Proofs.Build.FileAnswers
import BundleGraph.Proofs.FileSystem.Memory

/-!
# Which file is found

Files in memory answer with the first stored file among the 17 spellings of the path that is asked
for, if that path ends in a name.  The spellings that stand for a directory are tried only when
the directory exists, and this leaves none out: the directory of a stored file exists.

The path of an answer is clean, so an absolute one is found again under itself, from wherever it is
asked for.

## Main definitions

* `MemoryFiles.resolver` — the resolver of files in memory.
* `MemoryFiles.probe?_eq_find?` — the first spelling that is stored is found.
* `FileResolver.result_resolve_means` — what is answered for a path.
* `MemoryFiles.Exact` — what files in memory answer; `MemoryFiles.resolver_exact` says that they
  answer so.
-/

namespace BundleGraph

/-! ## Answers of any files -/

namespace FileResolver

variable {r : FileResolver} {q : ResolveRequest} {p candidate path : Path}

/-- A listed specifier is answered with itself. -/
theorem result_resolve_listed (h : Listed r.external q.specifier) :
    (r.resolve q).result = .ok (some { path := q.specifier, external := true }) := by
  rw [resolve, if_pos (isExternal_iff.mpr h)]
  rfl

/-- Any other specifier is answered with what the path that it means leads to. -/
theorem result_resolve_means (h : ¬ Listed r.external q.specifier)
    (hp : MeansPath q.directory q.specifier p) :
    (r.resolve q).result = .ok (r.targetOf? p.clean) := by
  rw [resolve, if_neg fun hlisted => h (isExternal_iff.mp hlisted)]
  cases hp with
  | absolute habs =>
    rw [if_pos habs]
    rfl
  | relative hdots hd =>
    rw [if_neg (Bool.eq_false_iff.mp hdots.isAbsolute_eq), if_pos (isRelative_iff.mpr hdots), hd]
    rfl

/-- A specifier that means no path has no answer. -/
theorem result_resolve_pathless (h : ¬ Listed r.external q.specifier)
    (habs : (⟨q.specifier⟩ : Path).isAbsolute = false)
    (hdots : StartsWithDots q.specifier → q.directory = none) :
    (r.resolve q).result = .ok none := by
  rw [resolve, if_neg fun hlisted => h (isExternal_iff.mp hlisted),
    if_neg (Bool.eq_false_iff.mp habs)]
  by_cases hrelative : isRelative q.specifier = true
  · rw [if_pos hrelative, hdots (isRelative_iff.mp hrelative)]
    rfl
  · rw [if_neg hrelative]
    rfl

/-- A candidate that is a file leads to itself. -/
theorem probe?_of_isFile (h : r.files.isFile candidate = true) :
    r.probe? candidate = some candidate := by
  rw [probe?, if_pos h]

/-- What a candidate leads to is a file. -/
theorem isFile_of_probe? (h : r.probe? candidate = some path) : r.files.isFile path = true := by
  rw [probe?] at h
  split at h
  · rename_i hfile
    cases h
    exact hfile
  · split at h
    · cases h
    · split at h
      · rename_i hfound
        cases h
        exact List.find?_some hfound
      · split at h
        · exact List.find?_some h
        · cases h

/-- A candidate without a name leads to itself or to nothing. -/
theorem probe?_of_nameless (hn : candidate.fileName? = none) :
    r.probe? candidate = if r.files.isFile candidate then some candidate else none := by
  rw [probe?]
  simp only [hn]

/-- A clean candidate that ends in a name leads to the first of its spellings that is a file, when
it exists as soon as it has an index file. -/
theorem probe?_eq_find?_of_contains {name : String} (hc : candidate.clean = candidate)
    (hn : candidate.fileName? = some name)
    (hindex : ∀ f ∈ indexes candidate, r.files.isFile f = true →
      r.files.contains candidate = true) :
    r.probe? candidate = candidate.spellings.find? r.files.isFile := by
  rw [probe?, spellings_eq hc hn]
  by_cases hfile : r.files.isFile candidate = true
  · rw [if_pos hfile, List.find?_cons_of_pos hfile]
  · rw [if_neg hfile, List.find?_cons_of_neg hfile, List.find?_append]
    simp only [hn]
    cases (extended candidate name).find? r.files.isFile with
    | some path => rfl
    | none =>
      simp only [Option.none_or]
      by_cases hcontains : r.files.contains candidate = true
      · rw [if_pos hcontains]
      · -- The index files are not tried, and none of them is a file.
        rw [if_neg hcontains]
        exact (List.find?_eq_none.mpr fun f hf h => hcontains (hindex f hf h)).symm

/-- The name of an index file is one step. -/
theorem isStep_index {ext : String} (hext : ext ∈ probedExtensions) :
    (Path.Component.normal s!"index.{ext}").IsStep := by
  have hname : s!"index.{ext}" = "index" ++ ("." ++ ext) := by
    rw [← String.append_assoc]
    rfl
  rw [hname]
  exact isStep_withExtension (by decide +kernel) (by decide +kernel) hext

end FileResolver

/-! ## Answers of files in memory -/

namespace MemoryFiles

variable {m : MemoryFiles} {external : List String} {c p : Path} {name : String}
  {q q' : ResolveRequest} {t : Target}

/-- The resolver of files in memory, with the specifiers that stay outside. -/
def resolver (m : MemoryFiles) (external : List String) : FileResolver :=
  ⟨m.fileSystem, external⟩

/-- The directory of an index file exists. -/
theorem contains_of_index (hn : c.fileName? = some name) {f : Path}
    (hf : f ∈ FileResolver.indexes c) (h : m.isFile f = true) : m.contains c = true := by
  obtain ⟨ext, hext, rfl⟩ := List.mem_map.mp hf
  have hstep := FileResolver.isStep_index hext
  have hsteps : Path.steps s!"index.{ext}".toList = [.normal s!"index.{ext}"] :=
    Path.steps_unsplit (List.forall_mem_singleton.mpr hstep)
  exact contains_of_stores hn (Path.isAbsolute_name hstep) hsteps (isFile_iff.mp h)

/-- A clean candidate that ends in a name leads to the first of its spellings that is stored. -/
theorem probe?_eq_find? (hc : c.clean = c) (hn : c.fileName? = some name) :
    (m.resolver external).probe? c = c.spellings.find? m.isFile :=
  FileResolver.probe?_eq_find?_of_contains hc hn fun _ => contains_of_index hn

/-- What files in memory answer to requests. -/
structure Exact (m : MemoryFiles) (external : List String) : Prop where
  /-- A listed specifier stays outside, whatever it means. -/
  listed : ∀ q : ResolveRequest, Listed external q.specifier →
    ((m.resolver external).resolve q).result =
      .ok (some { path := q.specifier, external := true })
  /-- A specifier is not found that is neither absolute nor read from a directory. -/
  pathless : ∀ q : ResolveRequest, ¬ Listed external q.specifier →
    (⟨q.specifier⟩ : Path).isAbsolute = false →
    (StartsWithDots q.specifier → q.directory = none) →
    ((m.resolver external).resolve q).result = .ok none
  /-- Any other is answered with the first spelling of its clean path that is stored. -/
  named : ∀ (q : ResolveRequest) (p : Path) (name : String), ¬ Listed external q.specifier →
    MeansPath q.directory q.specifier p → p.clean.fileName? = some name →
    ∃ found, m.FirstStored p.clean.spellings found ∧
      ((m.resolver external).resolve q).result = .ok (found.map fun f => { path := f.text })
  /-- An answer that is not external is a clean path under which a file is stored. -/
  stored : ∀ (q : ResolveRequest) (t : Target),
    ((m.resolver external).resolve q).result = .ok (some t) → t.external = false →
    (⟨t.path⟩ : Path).clean = ⟨t.path⟩ ∧ m.Stores ⟨t.path⟩
  /-- If it is absolute and not listed, it is answered with itself, from wherever. -/
  again : ∀ (q q' : ResolveRequest) (t : Target),
    ((m.resolver external).resolve q).result = .ok (some t) → t.external = false →
    (⟨t.path⟩ : Path).isAbsolute = true → ¬ Listed external t.path → q'.specifier = t.path →
    ((m.resolver external).resolve q').result = .ok (some t)

theorem result_resolve_named (h : ¬ Listed external q.specifier)
    (hp : MeansPath q.directory q.specifier p) (hn : p.clean.fileName? = some name) :
    ((m.resolver external).resolve q).result =
      .ok ((p.clean.spellings.find? m.isFile).map fun f => { path := f.text }) := by
  rw [FileResolver.result_resolve_means h hp, FileResolver.targetOf?,
    probe?_eq_find? p.clean_clean hn]

/-- What files answer with, when it is not external. -/
theorem stored_of_resolve (h : ((m.resolver external).resolve q).result = .ok (some t))
    (ht : t.external = false) : ∃ path : Path, t = { path := path.text } ∧ path.clean = path ∧
      m.isFile path = true := by
  rcases FileResolver.target_of_resolve h with ⟨-, rfl⟩ | ⟨-, p, path, -, hprobe, rfl⟩
  · cases ht
  · exact ⟨path, rfl, (FileResolver.find?_spellings_of_probe? p.clean_clean hprobe).2,
      FileResolver.isFile_of_probe? hprobe⟩

/-- A stored file is answered with itself under its clean path. -/
theorem result_resolve_stored {path : Path} (hc : path.clean = path) (hfile : m.isFile path = true)
    (habs : path.isAbsolute = true) (hlisted : ¬ Listed external path.text)
    (hq : q.specifier = path.text) :
    ((m.resolver external).resolve q).result = .ok (some { path := path.text }) := by
  rw [← hq] at hlisted
  have hmeans : MeansPath q.directory q.specifier path := by
    rw [hq]
    exact .absolute habs
  rw [FileResolver.result_resolve_means hlisted hmeans, hc, FileResolver.targetOf?,
    FileResolver.probe?_of_isFile hfile]
  rfl

/-- Files in memory answer with listed specifiers, or with the first stored file that a specifier
may mean. -/
theorem resolver_exact (m : MemoryFiles) (external : List String) : m.Exact external := by
  constructor
  case listed => exact fun q h => FileResolver.result_resolve_listed h
  case pathless => exact fun q h habs hdots => FileResolver.result_resolve_pathless h habs hdots
  case named =>
    exact fun q p name h hp hn => ⟨_, firstStored_iff.mpr rfl, result_resolve_named h hp hn⟩
  case stored =>
    intro q t h ht
    obtain ⟨path, rfl, hclean, hfile⟩ := stored_of_resolve h ht
    exact ⟨hclean, isFile_iff.mp hfile⟩
  case again =>
    intro q q' t h ht habs hlisted hq'
    obtain ⟨path, rfl, hclean, hfile⟩ := stored_of_resolve h ht
    exact result_resolve_stored hclean hfile habs hlisted hq'

/-- A style sheet and a directory with an index file, which share a name. -/
def styledApp : MemoryFiles :=
  (MemoryFiles.insert ⟨⟨"/app"⟩, []⟩ ⟨"lib/index.js"⟩ "1".toUTF8).insert ⟨"lib.css"⟩ "2".toUTF8

/-- The style sheet is found first. -/
theorem resolver_exact_styledApp :
    let p := (⟨"/app/lib"⟩ : Path).join ⟨"../lib"⟩
    ¬ Listed ["react"] "../lib" ∧ MeansPath (some ⟨"/app/lib"⟩) "../lib" p ∧
      p.clean.fileName? = some "lib" ∧
      styledApp.FirstStored p.clean.spellings (some ⟨"/app/lib.css"⟩) ∧
      ((styledApp.resolver ["react"]).resolve (.ofEntry "../lib" ⟨"/app/lib"⟩)).result =
        .ok (some { path := "/app/lib.css" }) := by
  intro p
  have hlisted : ¬ Listed ["react"] "../lib" := by
    rw [← isExternal_iff]
    decide +kernel
  have hp : MeansPath (some ⟨"/app/lib"⟩) "../lib" p :=
    .relative (isRelative_iff.mp (by decide +kernel)) rfl
  have hn : p.clean.fileName? = some "lib" := by decide +kernel
  obtain ⟨found, hfirst, hresult⟩ := (resolver_exact styledApp ["react"]).named
    (.ofEntry "../lib" ⟨"/app/lib"⟩) p "lib" hlisted hp hn
  have hfound : found = some ⟨"/app/lib.css"⟩ :=
    (firstStored_iff.mp hfirst).symm.trans (by decide +kernel)
  rw [hfound] at hfirst hresult
  exact ⟨hlisted, hp, hn, hfirst, hresult⟩

end MemoryFiles

end BundleGraph
