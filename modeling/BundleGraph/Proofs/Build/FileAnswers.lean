import BundleGraph.Build.Run
import BundleGraph.Build.Files
import BundleGraph.Proofs.Path.Clean

/-!
# What files answer

A listed specifier is answered with itself, from wherever it is asked for.  Any other specifier
means a path, by itself or from the directory of the request, and a clean path is tried under 17
spellings: as it is, with an extension, and as a directory with an index file.  The first spelling
that is a file is the answer.  All spellings of a clean path that ends in a name are clean.

## Main definitions

* `Listed`, `StartsWithDots` — specifiers that stay outside, and those of files nearby.
* `MeansPath` — the path that a specifier means.
* `Path.spellings` — the paths that are tried for a path, in order.
* `FileResolver.target_of_resolve` — what files answer to a request.
* `FileResolver.find?_spellings_of_probe?` — a candidate leads to the first spelling that is a
  file, which is clean.
* `FileLoader.Reads` — a file that is loaded; `FileLoader.reads_of_load` says that it is one.
-/

namespace BundleGraph

/-- A specifier is in the list, or below a member of it. -/
def Listed (external : List String) (specifier : String) : Prop :=
  ∃ e ∈ external, specifier = e ∨ ∃ rest, specifier = e ++ "/" ++ rest

/-- One dot or two dots, alone or with a slash after them, start a specifier. -/
def StartsWithDots (specifier : String) : Prop :=
  specifier = "." ∨ specifier = ".." ∨ (∃ rest, specifier = "./" ++ rest) ∨
    ∃ rest, specifier = "../" ++ rest

/-- The path that a specifier means: by itself if it is absolute, and from the directory it is
read from if it starts with dots. -/
inductive MeansPath (directory : Option Path) (specifier : String) : Path → Prop where
  | absolute (h : (⟨specifier⟩ : Path).isAbsolute = true) :
    MeansPath directory specifier ⟨specifier⟩
  | relative {d : Path} (h : StartsWithDots specifier) (hd : directory = some d) :
    MeansPath directory specifier (d.join ⟨specifier⟩)

/-- A text starts with another if its characters do. -/
theorem toList_prefix_iff {start text : String} :
    start.toList <+: text.toList ↔ ∃ rest, text = start ++ rest := by
  constructor
  · rintro ⟨rest, hrest⟩
    refine ⟨String.ofList rest, String.toList_injective ?_⟩
    rw [String.toList_append, String.toList_ofList, hrest]
  · rintro ⟨rest, rfl⟩
    rw [String.toList_append]
    exact List.prefix_append _ _

theorem isExternal_iff {specifier : String} {external : List String} :
    isExternal specifier external = true ↔ Listed external specifier := by
  rw [isExternal, List.any_eq_true]
  refine exists_congr fun e => and_congr_right fun _ => ?_
  have hslash : e.toList ++ ['/'] = (e ++ "/").toList := by
    rw [String.toList_append]
    rfl
  rw [Bool.or_eq_true, beq_iff_eq, List.isPrefixOf_iff_prefix, hslash, toList_prefix_iff]

theorem isRelative_iff {specifier : String} :
    isRelative specifier = true ↔ StartsWithDots specifier := by
  have hdot : ['.', '/'] = "./".toList := rfl
  have hdots : ['.', '.', '/'] = "../".toList := rfl
  rw [isRelative, Bool.or_eq_true, Bool.or_eq_true, Bool.or_eq_true, beq_iff_eq, beq_iff_eq,
    List.isPrefixOf_iff_prefix, List.isPrefixOf_iff_prefix, hdots, hdot, toList_prefix_iff,
    toList_prefix_iff, or_assoc, or_assoc, StartsWithDots]

/-- Dots at the start are no slash. -/
theorem StartsWithDots.isAbsolute_eq {specifier : String} (h : StartsWithDots specifier) :
    (⟨specifier⟩ : Path).isAbsolute = false := by
  rcases h with rfl | rfl | ⟨rest, rfl⟩ | ⟨rest, rfl⟩
  · rfl
  · rfl
  · rw [Path.isAbsolute, String.toList_append]
    rfl
  · rw [Path.isAbsolute, String.toList_append]
    rfl

/-- A specifier means one path at most. -/
theorem MeansPath.unique {directory : Option Path} {specifier : String} {p p' : Path}
    (h : MeansPath directory specifier p) (h' : MeansPath directory specifier p') : p = p' := by
  cases h with
  | absolute ha =>
    cases h' with
    | absolute => rfl
    | relative hr => cases hr.isAbsolute_eq.symm.trans ha
  | relative hr hd =>
    cases h' with
    | absolute ha => cases hr.isAbsolute_eq.symm.trans ha
    | relative _ hd' =>
      cases hd.symm.trans hd'
      rfl

/-- What stands after a path in the paths that are tried for it, in order: nothing, an extension,
or the name of an index file. -/
def spellingEndings : List String :=
  ["", ".tsx", ".ts", ".jsx", ".js", ".mjs", ".cjs", ".css", ".json", "/index.tsx", "/index.ts",
    "/index.jsx", "/index.js", "/index.mjs", "/index.cjs", "/index.css", "/index.json"]

/-- The paths that are tried for a path, in order. -/
def Path.spellings (c : Path) : List Path :=
  spellingEndings.map fun ending => ⟨c.text ++ ending⟩

/-- The path itself is tried first. -/
theorem Path.exists_spellings (c : Path) : ∃ rest, c.spellings = c :: rest := by
  rw [spellings, spellingEndings, List.map_cons, String.append_empty]
  exact ⟨_, rfl⟩

namespace FileResolver

variable {r : FileResolver} {q q' : ResolveRequest} {t : Target} {candidate path : Path}

/-- What files answer to a request depends on its key. -/
theorem result_resolve_congr (r : FileResolver) (h : q.key = q'.key) :
    (r.resolve q).result = (r.resolve q').result := by
  have hs : q.specifier = q'.specifier := congrArg ResolveKey.specifier h
  have hd : q.directory.map Path.components = q'.directory.map Path.components :=
    congrArg ResolveKey.directory h
  rw [resolve, resolve, hs]
  by_cases hexternal : isExternal q'.specifier r.external = true
  · rw [if_pos hexternal, if_pos hexternal]
  · rw [if_neg hexternal, if_neg hexternal]
    by_cases habsolute : (⟨q'.specifier⟩ : Path).isAbsolute = true
    · rw [if_pos habsolute, if_pos habsolute]
    · rw [if_neg habsolute, if_neg habsolute]
      by_cases hrelative : isRelative q'.specifier = true
      · rw [if_pos hrelative, if_pos hrelative]
        cases hq : q.directory with
        | none =>
          rw [hq] at hd
          cases hq' : q'.directory with
          | none => rfl
          | some d' => rw [hq'] at hd; cases hd
        | some d =>
          rw [hq] at hd
          cases hq' : q'.directory with
          | none => rw [hq'] at hd; cases hd
          | some d' =>
            rw [hq'] at hd
            simp only [Path.clean_join_congr (Option.some.inj hd)]
      · rw [if_neg hrelative, if_neg hrelative]

/-- Files answer with a listed specifier, which is external, or with what the path that any other
specifier means leads to. -/
theorem target_of_resolve (h : (r.resolve q).result = .ok (some t)) :
    (Listed r.external q.specifier ∧ t = { path := q.specifier, external := true }) ∨
      (¬ Listed r.external q.specifier ∧ ∃ p path : Path, MeansPath q.directory q.specifier p ∧
        r.probe? p.clean = some path ∧ t = { path := path.text }) := by
  have htarget : ∀ p : Path, MeansPath q.directory q.specifier p →
      r.targetOf? p.clean = some t →
      ∃ p path, MeansPath q.directory q.specifier p ∧ r.probe? p.clean = some path ∧
        t = { path := path.text } := by
    intro p hp ht
    obtain ⟨path, hpath, rfl⟩ := Option.map_eq_some_iff.mp ht
    exact ⟨p, path, hp, hpath, rfl⟩
  rw [resolve] at h
  split at h
  · rename_i hlisted
    cases h
    exact .inl ⟨isExternal_iff.mp hlisted, rfl⟩
  · rename_i hlisted
    refine .inr ⟨fun h => hlisted (isExternal_iff.mpr h), ?_⟩
    split at h
    · rename_i habsolute
      exact htarget _ (.absolute habsolute) (Except.ok.inj h)
    · split at h
      · rename_i hrelative
        split at h
        · rename_i d hd
          exact htarget _ (.relative (isRelative_iff.mp hrelative) hd) (Except.ok.inj h)
        · cases h
      · cases h

/-- An absolute candidate leads to absolute paths. -/
theorem isAbsolute_of_probe? (hc : candidate.isAbsolute = true)
    (h : r.probe? candidate = some path) : path.isAbsolute = true := by
  rw [probe?] at h
  split at h
  · cases h
    exact hc
  · split at h
    · cases h
    · split at h
      · rename_i hfound
        cases h
        obtain ⟨ext, -, rfl⟩ := List.mem_map.mp (List.mem_of_find?_eq_some hfound)
        exact Path.isAbsolute_withFileName hc _
      · split at h
        · obtain ⟨ext, -, rfl⟩ := List.mem_map.mp (List.mem_of_find?_eq_some h)
          exact Path.isAbsolute_join hc _
        · cases h

/-! ## Spellings -/

/-- Extensions have no slashes, and at least two characters. -/
theorem probedExtensions_plain :
    ∀ ext ∈ probedExtensions, '/' ∉ ext.toList ∧ 1 < ext.toList.length := by
  decide +kernel

/-- Something, a dot and an extension are a name. -/
theorem isStep_withExtension {stem ext : String} (hstem : '/' ∉ stem.toList)
    (hne : stem.toList ≠ []) (hext : ext ∈ probedExtensions) :
    (Path.Component.normal (stem ++ ("." ++ ext))).IsStep := by
  obtain ⟨hslash, hlength⟩ := probedExtensions_plain ext hext
  have hpos : 0 < stem.toList.length := List.length_pos_iff.mpr hne
  have hchars : (stem ++ ("." ++ ext)).toList = stem.toList ++ '.' :: ext.toList := by
    rw [String.toList_append, String.toList_append]
    rfl
  apply Path.isStep_normal
  · rw [hchars, List.mem_append, List.mem_cons]
    rintro (hin | hdot | hin)
    · exact hstem hin
    · cases hdot
    · exact hslash hin
  · rw [hchars, List.length_append, List.length_cons]
    omega

section
variable {name ext : String} (hc : candidate.clean = candidate)
  (hn : candidate.fileName? = some name) (hext : ext ∈ probedExtensions)
include hc hn hext

/-- An extension stands at the end of a clean path, and the path stays clean. -/
theorem withFileName_eq :
    candidate.withFileName s!"{name}.{ext}" = ⟨candidate.text ++ ("." ++ ext)⟩ ∧
      (⟨candidate.text ++ ("." ++ ext)⟩ : Path).clean = ⟨candidate.text ++ ("." ++ ext)⟩ := by
  obtain ⟨cs, htidy, hstep, rfl⟩ := Path.exists_of_fileName? hc hn
  have hstep' := isStep_withExtension hstep.1 hstep.chars_ne_nil hext
  have hname : s!"{name}.{ext}" = name ++ ("." ++ ext) := String.append_assoc
  rw [hname, Path.withFileName_ofComponents htidy hstep hstep',
    ← Path.ofComponents_extend htidy hstep hstep']
  exact ⟨rfl, Path.clean_ofComponents_append htidy hstep'⟩

/-- An index file stands in a clean path, and its path is clean. -/
theorem join_index_eq :
    candidate.join ⟨s!"index.{ext}"⟩ = ⟨candidate.text ++ ("/index." ++ ext)⟩ ∧
      (⟨candidate.text ++ ("/index." ++ ext)⟩ : Path).clean =
        ⟨candidate.text ++ ("/index." ++ ext)⟩ := by
  obtain ⟨cs, htidy, hstep, rfl⟩ := Path.exists_of_fileName? hc hn
  have hstep' : (Path.Component.normal ("index" ++ ("." ++ ext))).IsStep :=
    isStep_withExtension (by decide +kernel) (by decide +kernel) hext
  have htidy' := Path.tidy_append htidy hstep
  have hname : s!"index.{ext}" = "index" ++ ("." ++ ext) := by
    rw [← String.append_assoc]
    rfl
  have htext : "/" ++ ("index" ++ ("." ++ ext)) = "/index." ++ ext := by
    rw [← String.append_assoc, ← String.append_assoc]
    rfl
  rw [hname, Path.join_ofComponents htidy' hstep', ← htext,
    ← Path.ofComponents_below htidy hstep hstep']
  exact ⟨rfl, Path.clean_ofComponents_append htidy' hstep'⟩

end

section
variable {name : String} (hc : candidate.clean = candidate)
  (hn : candidate.fileName? = some name)
include hc hn

/-- The paths that are tried are the spellings. -/
theorem spellings_eq :
    candidate.spellings = candidate :: (extended candidate name ++ indexes candidate) := by
  have hendings : spellingEndings = "" :: (probedExtensions.map (fun ext => "." ++ ext) ++
      probedExtensions.map fun ext => "/index." ++ ext) := rfl
  have hextended : extended candidate name =
      probedExtensions.map fun ext => ⟨candidate.text ++ ("." ++ ext)⟩ :=
    List.map_congr_left fun ext hext => (withFileName_eq hc hn hext).1
  have hindexes : indexes candidate =
      probedExtensions.map fun ext => ⟨candidate.text ++ ("/index." ++ ext)⟩ :=
    List.map_congr_left fun ext hext => (join_index_eq hc hn hext).1
  rw [Path.spellings, hendings, List.map_cons, List.map_append, List.map_map, List.map_map,
    String.append_empty, hextended, hindexes]
  rfl

/-- All spellings of a clean path that ends in a name are clean. -/
theorem clean_of_mem_spellings (hp : path ∈ candidate.spellings) : path.clean = path := by
  rw [spellings_eq hc hn, List.mem_cons, List.mem_append] at hp
  rcases hp with rfl | hp | hp
  · exact hc
  · obtain ⟨ext, hext, rfl⟩ := List.mem_map.mp hp
    rw [(withFileName_eq hc hn hext).1]
    exact (withFileName_eq hc hn hext).2
  · obtain ⟨ext, hext, rfl⟩ := List.mem_map.mp hp
    rw [(join_index_eq hc hn hext).1]
    exact (join_index_eq hc hn hext).2

end

/-- A clean candidate leads to the first of its spellings that is a file, which is clean. -/
theorem find?_spellings_of_probe? (hc : candidate.clean = candidate)
    (h : r.probe? candidate = some path) :
    candidate.spellings.find? r.files.isFile = some path ∧ path.clean = path := by
  rw [probe?] at h
  split at h
  · rename_i hfile
    cases h
    obtain ⟨rest, hrest⟩ := candidate.exists_spellings
    rw [hrest]
    exact ⟨List.find?_cons_of_pos hfile, hc⟩
  · rename_i hfile
    split at h
    · cases h
    · rename_i name hn
      have hfind : candidate.spellings.find? r.files.isFile = some path := by
        rw [spellings_eq hc hn, List.find?_cons_of_neg hfile, List.find?_append]
        split at h
        · rename_i hfound
          rw [hfound, ← h]
          rfl
        · rename_i hnone
          split at h
          · rw [hnone, h]
            rfl
          · cases h
      exact ⟨hfind, clean_of_mem_spellings hc hn (List.mem_of_find?_eq_some hfind)⟩

end FileResolver

/-! ## What is read -/

/-- Under the identity is a file, read as its extension says, and its imports start from the
directory it is in. -/
structure FileLoader.Reads (l : FileLoader) (id : ModuleId) (loaded : LoadedModule) : Prop where
  space_eq : id.space = fileSpace
  kind_eq : l.kindOf? id = some loaded.kind
  text_eq : l.files.readText id.asPath = .ok loaded.contents
  directory_eq : loaded.directory = id.asPath.parent?

theorem FileLoader.reads_of_load {l : FileLoader} {id : ModuleId} {loaded : LoadedModule}
    (h : (loadByDefault l.load id).result = .ok loaded) : l.Reads id loaded := by
  obtain ⟨c, hc, h⟩ := Work.result_bind_ok h
  replace hc : l.load id = .ok c := hc
  rw [load] at hc
  split at hc
  · rename_i hfile
    split at hc
    · cases hc
      cases h
    · rename_i kind hkind
      split at hc
      · rename_i text htext
        cases hc
        obtain ⟨_, -, h⟩ := Work.result_bind_ok h
        cases h
        have hdirectory : id.asPath.parent?.or (if id.isFile then id.asPath.parent? else none) =
            id.asPath.parent? := by
          rw [if_pos hfile, Option.or_self]
        exact ⟨eq_of_beq hfile, hkind, htext, hdirectory⟩
      · cases hc
  · cases hc
    cases h

end BundleGraph
