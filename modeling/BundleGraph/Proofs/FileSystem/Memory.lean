import BundleGraph.FileSystem.Memory
import BundleGraph.Proofs.Path.Clean

/-!
# Files in memory

A file is stored under a clean path, and is found by every path that is located there.  What is
read from a path that ends in a name stays below it when both are located, because the working
directory comes before the path and cleaning takes nothing back past the name.  So a directory
exists in which a file is stored.

## Main definitions

* `MemoryFiles.Holds`, `MemoryFiles.Stores` — what is stored at the place of a path.
* `MemoryFiles.FirstStored` — the first of some paths under which a file is stored.
* `Path.startsWith_clean_join` — a path read from another is below it.
* `MemoryFiles.contains_of_stores` — a directory with a file in it exists.
-/

namespace BundleGraph

namespace Path

variable {c d p s : Path} {name : String}

/-! ## Paths that end in a name -/

theorem exists_components (h : p.fileName? = some name) :
    ∃ xs, p.components = xs ++ [.normal name] := by
  rw [fileName?] at h
  split at h
  · rename_i hlast
    cases h
    exact List.getLast?_eq_some_iff.mp hlast
  · cases h

theorem fileName?_of_components {xs : List Component} (h : p.components = xs ++ [.normal name]) :
    p.fileName? = some name := by
  rw [fileName?, h, List.getLast?_append_cons]
  rfl

theorem text_ne_nil (h : p.fileName? = some name) : p.text.toList ≠ [] := by
  intro hnil
  rw [fileName?, components_eq_nil_iff.mpr hnil] at h
  cases h

/-- Neither the root nor a dot is a name. -/
theorem getLast?_lead (cs : List Char) : (lead cs).getLast? ≠ some (.normal name) := by
  cases cs with
  | nil => exact nofun
  | cons ch cs =>
    by_cases hch : ch = '/'
    · rw [hch]
      exact nofun
    · have hhead : (ch :: cs).head? ≠ some '/' := fun h => hch (Option.some.inj h)
      rw [lead_of_ne hhead]
      split <;> exact nofun

theorem getLast?_steps (h : p.fileName? = some name) :
    (steps p.text.toList).getLast? = some (.normal name) := by
  obtain ⟨xs, hxs⟩ := exists_components h
  have hlast : p.components.getLast? = some (.normal name) := by
    rw [hxs, List.getLast?_append_cons]
    rfl
  rw [components_eq, List.getLast?_append, Option.or_eq_some_iff] at hlast
  exact hlast.resolve_right fun hlead => getLast?_lead _ hlead.2

/-! ## Paths read from a directory -/

theorem join_of_isAbsolute (h : s.isAbsolute = true) : d.join s = s := if_pos h

theorem join_of_empty (h : d.text.toList = []) : d.join s = s := by
  by_cases hs : s.isAbsolute = true
  · exact join_of_isAbsolute hs
  · apply eq_of_toList
    rw [toList_join_open (Bool.eq_false_iff.mpr hs) (.inl h), h, List.nil_append]

/-- A path that is read from a directory starts as the directory does. -/
theorem isAbsolute_join_eq (hs : s.isAbsolute = false) (hd : d.text.toList ≠ []) :
    (d.join s).isAbsolute = d.isAbsolute := by
  rw [join, if_neg (Bool.eq_false_iff.mp hs)]
  split <;>
    simp only [isAbsolute, String.toList_append, List.append_assoc,
      List.head?_append_of_ne_nil _ hd]

theorem steps_join (hs : s.isAbsolute = false) (hd : d.text.toList ≠ []) :
    steps (d.join s).text.toList = steps d.text.toList ++ steps s.text.toList := by
  obtain ⟨xs, htext, -, hsteps⟩ := exists_join_text hs hd
  rw [htext, steps_append_slash, hsteps]

/-- It does not matter whether a directory is read first, or what is read from it. -/
theorem components_join_join (hs : s.isAbsolute = false) (hc : c.text.toList ≠ []) :
    (d.join (c.join s)).components = (d.join c).components ++ steps s.text.toList := by
  by_cases habs : c.isAbsolute = true
  · rw [join_of_isAbsolute habs, join_of_isAbsolute (isAbsolute_join habs s), components_join hs hc]
  · by_cases hd : d.text.toList = []
    · rw [join_of_empty hd, join_of_empty hd, components_join hs hc]
    · have hc' : c.isAbsolute = false := Bool.eq_false_iff.mpr habs
      have hcs : (c.join s).isAbsolute = false := by rw [isAbsolute_join_eq hs hc, hc']
      rw [components_join hcs hd, components_join hc' hd, steps_join hs hc, List.append_assoc]

/-- A path keeps its last name when it is read from a directory. -/
theorem fileName?_join (h : p.fileName? = some name) : (d.join p).fileName? = some name := by
  by_cases habs : p.isAbsolute = true
  · rw [join_of_isAbsolute habs, h]
  · by_cases hd : d.text.toList = []
    · rw [join_of_empty hd, h]
    · obtain ⟨xs, hxs⟩ := List.getLast?_eq_some_iff.mp (getLast?_steps h)
      have hjoin : (d.join p).components = (d.components ++ xs) ++ [.normal name] := by
        rw [components_join (Bool.eq_false_iff.mpr habs) hd, hxs, List.append_assoc]
      exact fileName?_of_components hjoin

/-! ## Cleaning -/

theorem cleanComponents_append (cs : List Component) (name : String) :
    cleanComponents (cs ++ [.normal name]) = cleanComponents cs ++ [.normal name] := by
  have hstep : ∀ done, cleanStep done (.normal name) = .normal name :: done := fun _ => rfl
  rw [cleanComponents, List.foldl_append, List.foldl_cons, List.foldl_nil, hstep,
    List.reverse_cons, cleanComponents]

theorem components_clean (h : cleanComponents p.components ≠ []) :
    p.clean.components = cleanComponents p.components := by
  rw [clean]
  split
  · rename_i hnil
    exact absurd hnil h
  · exact components_ofComponents (tidy_cleanComponents p)

/-- A name that is read from a path with a last name is below it, wherever both are. -/
theorem startsWith_clean_join (hc : c.fileName? = some name) (hs : s.isAbsolute = false)
    {name' : String} (hsteps : steps s.text.toList = [.normal name']) :
    (d.join (c.join s)).clean.startsWith (d.join c).clean = true := by
  obtain ⟨xs, hxs⟩ := exists_components (fileName?_join (d := d) hc)
  have hne : cleanComponents (d.join c).components ≠ [] := by
    rw [hxs, cleanComponents_append]
    simp
  have hbelow : cleanComponents (d.join (c.join s)).components =
      cleanComponents (d.join c).components ++ [.normal name'] := by
    rw [components_join_join hs (text_ne_nil hc), hsteps, cleanComponents_append]
  rw [startsWith, List.isPrefixOf_iff_prefix, components_clean hne, components_clean, hbelow]
  · exact List.prefix_append _ _
  · rw [hbelow]
    simp

end Path

namespace MemoryFiles

variable {m : MemoryFiles} {c p s : Path} {name name' : String}

/-- The first file at the place of a path has these bytes.  The place is the clean path that is
read from the working directory. -/
def Holds (m : MemoryFiles) (path : Path) (bytes : ByteArray) : Prop :=
  ∃ before after, m.files = before ++ ((m.directory.join path).clean, bytes) :: after ∧
    ∀ f ∈ before, f.1 ≠ (m.directory.join path).clean

/-- A file is stored at the place of a path. -/
def Stores (m : MemoryFiles) (path : Path) : Prop :=
  ∃ bytes, m.Holds path bytes

/-- The first of some paths under which a file is stored, or none if there is no such path. -/
inductive FirstStored (m : MemoryFiles) (paths : List Path) : Option Path → Prop where
  | found {before after : List Path} {path : Path} (h : paths = before ++ path :: after)
      (hbefore : ∀ p ∈ before, ¬ m.Stores p) (hpath : m.Stores path) :
      FirstStored m paths (some path)
  | nothing (h : ∀ p ∈ paths, ¬ m.Stores p) : FirstStored m paths none

/-- A path is located by reading it from the working directory. -/
theorem locate_eq (m : MemoryFiles) (p : Path) : m.locate p = (m.directory.join p).clean := by
  rw [locate]
  split
  · rename_i h
    rw [Path.join_of_isAbsolute h]
  · rfl

theorem bytesAt?_eq_some_iff {bytes : ByteArray} :
    m.bytesAt? (m.locate p) = some bytes ↔ m.Holds p bytes := by
  rw [locate_eq, bytesAt?, Option.map_eq_some_iff]
  constructor
  · rintro ⟨⟨place, bytes⟩, hfind, rfl⟩
    obtain ⟨hplace, before, after, hfiles, hbefore⟩ := List.find?_eq_some_iff_append.mp hfind
    obtain rfl : place = (m.directory.join p).clean := eq_of_beq hplace
    exact ⟨before, after, hfiles, fun f hf => by simpa using hbefore f hf⟩
  · rintro ⟨before, after, hfiles, hbefore⟩
    refine ⟨_, List.find?_eq_some_iff_append.mpr ⟨beq_self_eq_true _, before, after, hfiles, ?_⟩,
      rfl⟩
    exact fun f hf => by simpa using hbefore f hf

theorem isFile_iff : m.isFile p = true ↔ m.Stores p := by
  simp only [isFile, Option.isSome_iff_exists, bytesAt?_eq_some_iff, Stores]

theorem Stores.mem_files (h : m.Stores p) :
    ∃ bytes, ((m.directory.join p).clean, bytes) ∈ m.files := by
  obtain ⟨bytes, before, after, hfiles, -⟩ := h
  exact ⟨bytes, by simp [hfiles]⟩

/-- The first path under which a file is stored is found by trying one after the other. -/
theorem firstStored_iff {paths : List Path} {found : Option Path} :
    m.FirstStored paths found ↔ paths.find? m.isFile = found := by
  constructor
  · rintro (⟨rfl, hbefore, hpath⟩ | h)
    · refine List.find?_eq_some_iff_append.mpr ⟨isFile_iff.mpr hpath, _, _, rfl, fun q hq => ?_⟩
      have hnot := hbefore q hq
      rw [← isFile_iff] at hnot
      simpa using hnot
    · exact List.find?_eq_none.mpr fun q hq hfile => h q hq (isFile_iff.mp hfile)
  · rintro rfl
    cases hfind : paths.find? m.isFile with
    | none => exact .nothing fun q hq => List.find?_eq_none.mp hfind q hq ∘ isFile_iff.mpr
    | some path =>
      obtain ⟨hpath, before, after, hpaths, hbefore⟩ := List.find?_eq_some_iff_append.mp hfind
      refine .found hpaths (fun q hq hstores => ?_) (isFile_iff.mp hpath)
      simpa [isFile_iff.mpr hstores] using hbefore q hq

/-- A directory exists in which a file is stored. -/
theorem contains_of_stores (hc : c.fileName? = some name) (hs : s.isAbsolute = false)
    (hsteps : Path.steps s.text.toList = [.normal name']) (h : m.Stores (c.join s)) :
    m.contains c = true := by
  obtain ⟨bytes, hmem⟩ := h.mem_files
  rw [contains, List.any_eq_true]
  refine ⟨_, hmem, ?_⟩
  rw [locate_eq]
  exact Path.startsWith_clean_join hc hs hsteps

end MemoryFiles

end BundleGraph
