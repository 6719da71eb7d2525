import BundleGraph.Proofs.Path.Above

/-!
# Files in memory are a map over clean paths

Every path is located at a clean path, and the answers about it are those about where it is
located: what was put in there last, and whether anything was put in there or below.  Below means
by whole components, so that `/ab` is not below `/a`.  What is above an existing path exists, since
it leads to the start of where the path is located.

## Main definitions

* `MemoryFiles.after` — files in memory after some were put in, in order.
* `MemoryFiles.bytesAt?_after` — what is stored is what was put in last.
* `MemoryFiles.MapLaw` — the answers; `MemoryFiles.mapLaw_of_isAbsolute` says that they are these
  when the working directory is absolute.
-/

namespace BundleGraph

namespace MemoryFiles

open BundleGraph.Path

variable {m : MemoryFiles} {directory spot p q : Path} {bytes : ByteArray}
  {added : List (Path × ByteArray)}

/-- Files in memory after some were put in, in order. -/
def after (directory : Path) (added : List (Path × ByteArray)) : MemoryFiles :=
  added.foldl (fun m f => m.insert f.1 f.2) { directory }

theorem after_append_singleton (directory : Path) (added : List (Path × ByteArray))
    (f : Path × ByteArray) :
    after directory (added ++ [f]) = (after directory added).insert f.1 f.2 := by
  simp [after]

@[simp] theorem directory_after (directory : Path) (added : List (Path × ByteArray)) :
    (after directory added).directory = directory := by
  induction added using List.reverseRecOn with
  | nil => rfl
  | append_singleton added f ih =>
    rw [after_append_singleton]
    exact ih

@[simp] theorem locate_after (directory : Path) (added : List (Path × ByteArray)) (p : Path) :
    (after directory added).locate p = (directory.join p).clean := by
  rw [locate_eq, directory_after]

/-! ## What is stored -/

theorem bytesAt?_insert : (m.insert p bytes).bytesAt? spot =
    if m.locate p = spot then some bytes else m.bytesAt? spot := by
  by_cases h : m.locate p = spot
  · simp [bytesAt?, insert, h]
  · have hkept : ∀ f : Path × ByteArray,
        decide (((f.1 != m.locate p) = true) ∧ (f.1 == spot) = true) = (f.1 == spot) := by
      intro f
      by_cases hf : f.1 = spot <;> simp [hf, Ne.symm h]
    have hne : (m.locate p == spot) = false := beq_eq_false_iff_ne.mpr h
    simp only [bytesAt?, insert, List.find?_cons, hne, List.find?_filter, hkept, if_neg h]

/-- Of the files put in at a place the last one is stored there. -/
theorem bytesAt?_after : (after directory added).bytesAt? spot =
    (added.reverse.find? fun f => (directory.join f.1).clean == spot).map Prod.snd := by
  induction added using List.reverseRecOn with
  | nil => rfl
  | append_singleton added f ih =>
    rw [after_append_singleton, bytesAt?_insert, locate_after, ih, List.reverse_append,
      List.reverse_singleton, List.singleton_append, List.find?_cons]
    by_cases h : (directory.join f.1).clean = spot
    · simp [h]
    · simp [h, beq_eq_false_iff_ne.mpr h]

theorem bytesAt?_after_eq_some_iff : (after directory added).bytesAt? spot = some bytes ↔
    ∃ before q later, added = before ++ (q, bytes) :: later ∧ (directory.join q).clean = spot ∧
      ∀ f ∈ later, (directory.join f.1).clean ≠ spot := by
  rw [bytesAt?_after, Option.map_eq_some_iff]
  constructor
  · rintro ⟨f, hf, rfl⟩
    obtain ⟨hplace, later, before, hadded, hlater⟩ := List.find?_eq_some_iff_append.mp hf
    refine ⟨before.reverse, f.1, later.reverse, ?_, eq_of_beq hplace, fun g hg => ?_⟩
    · simpa using List.reverse_eq_iff.mp hadded
    · simpa using hlater g (List.mem_reverse.mp hg)
  · rintro ⟨before, q, later, rfl, hplace, hlater⟩
    refine ⟨(q, bytes), List.find?_eq_some_iff_append.mpr ?_, rfl⟩
    refine ⟨beq_iff_eq.mpr hplace, later.reverse, before.reverse, by simp, fun g hg => ?_⟩
    simpa using hlater g (List.mem_reverse.mp hg)

theorem bytesAt?_after_eq_none_iff : (after directory added).bytesAt? spot = none ↔
    ∀ f ∈ added, (directory.join f.1).clean ≠ spot := by
  rw [bytesAt?_after, Option.map_eq_none_iff, List.find?_eq_none]
  simp

/-- The places at which files are stored are those at which some were put in. -/
theorem exists_mem_files_after_iff : (∃ bytes, (spot, bytes) ∈ (after directory added).files) ↔
    ∃ f ∈ added, (directory.join f.1).clean = spot := by
  have hstored : (∃ bytes, (spot, bytes) ∈ (after directory added).files) ↔
      (after directory added).bytesAt? spot ≠ none := by
    rw [bytesAt?, Ne, Option.map_eq_none_iff, List.find?_eq_none]
    simp
  rw [hstored, Ne, bytesAt?_after_eq_none_iff]
  simp

/-! ## Answers -/

theorem read_eq_ok_iff : m.read p = .ok bytes ↔ m.bytesAt? (m.locate p) = some bytes := by
  rw [read]
  cases m.bytesAt? (m.locate p) <;> simp

theorem read_eq_error_iff {e : FileError} : m.read p = .error e ↔
    m.bytesAt? (m.locate p) = none ∧ e = .notFound (m.locate p) := by
  rw [read]
  cases m.bytesAt? (m.locate p) <;> simp [eq_comm]

theorem isFile_iff_read : m.isFile p = true ↔ ∃ bytes, m.read p = .ok bytes := by
  simp only [isFile, read_eq_ok_iff, Option.isSome_iff_exists]

theorem contains_iff : m.contains p = true ↔
    ∃ f ∈ m.files, (m.locate p).components <+: f.1.components := by
  simp [contains, startsWith]

theorem contains_after_iff : (after directory added).contains p = true ↔
    ∃ f ∈ added, (directory.join p).clean.components <+: (directory.join f.1).clean.components := by
  rw [contains_iff, locate_after]
  constructor
  · rintro ⟨⟨spot, bytes⟩, hmem, hstart⟩
    obtain ⟨f, hf, rfl⟩ := exists_mem_files_after_iff.mp ⟨bytes, hmem⟩
    exact ⟨f, hf, hstart⟩
  · rintro ⟨f, hf, hstart⟩
    obtain ⟨bytes, hmem⟩ := exists_mem_files_after_iff.mpr ⟨f, hf, rfl⟩
    exact ⟨_, hmem, hstart⟩

/-- What leads to the start of where an existing path is located exists. -/
theorem contains_of_place (hd : directory.isAbsolute = true)
    (h : (after directory added).contains p = true)
    (hstart : place directory q <+: place directory p) :
    (after directory added).contains q = true := by
  obtain ⟨f, hf, hp⟩ := contains_after_iff.mp h
  refine contains_after_iff.mpr ⟨f, hf, ?_⟩
  rw [components_clean_join hd] at hp ⊢
  exact hstart.trans hp

/-! ## The law -/

/-- What files in memory answer that were put in one after the other. -/
structure MapLaw (directory : Path) (added : List (Path × ByteArray)) : Prop where
  /-- A path is located at the clean path that is read from the working directory. -/
  locate_eq : ∀ p, (after directory added).locate p = (directory.join p).clean
  locate_locate : ∀ p, (after directory added).locate ((after directory added).locate p) =
    (after directory added).locate p
  /-- Paths that are located at one place have the same answers. -/
  answers_of_locate : ∀ p q, (after directory added).locate p = (after directory added).locate q →
    (after directory added).read p = (after directory added).read q ∧
      (after directory added).contains p = (after directory added).contains q ∧
      (after directory added).isFile p = (after directory added).isFile q
  /-- What is read was put in last at the place of the path. -/
  read_ok_iff : ∀ p bytes, (after directory added).read p = .ok bytes ↔
    ∃ before q later, added = before ++ (q, bytes) :: later ∧
      (after directory added).locate q = (after directory added).locate p ∧
      ∀ f ∈ later, (after directory added).locate f.1 ≠ (after directory added).locate p
  read_error_iff : ∀ p e, (after directory added).read p = .error e ↔
    e = .notFound ((after directory added).locate p) ∧
      ∀ f ∈ added, (after directory added).locate f.1 ≠ (after directory added).locate p
  isFile_iff : ∀ p, (after directory added).isFile p = true ↔
    ∃ bytes, (after directory added).read p = .ok bytes
  /-- A path exists where a file was put in, at its place or below it. -/
  contains_iff : ∀ p, (after directory added).contains p = true ↔
    ∃ f ∈ added, (after directory added).locate f.1 = (after directory added).locate p ∨
      ((after directory added).locate p).components <+:
        ((after directory added).locate f.1).components
  contains_of_isFile : ∀ p, (after directory added).isFile p = true →
    (after directory added).contains p = true
  /-- What the place of an existing path is in exists. -/
  contains_parent : ∀ p q, (after directory added).contains p = true →
    ((after directory added).locate p).parent? = some q → (after directory added).contains q = true
  /-- One can go up from an existing path. -/
  contains_up : ∀ p, (after directory added).contains p = true →
    (after directory added).contains (p.join ⟨".."⟩) = true
  /-- What an existing path is in as written exists too, unless the path ends in two dots. -/
  contains_parent_as_written : ∀ p q, (after directory added).contains p = true →
    p.components.getLast? ≠ some .parent → p.parent? = some q →
    (after directory added).contains q = true
  /-- To put in a file changes the answers of no other place. -/
  read_of_locate_ne : ∀ p q bytes,
    (after directory added).locate q ≠ (after directory added).locate p →
    (after directory (added ++ [(q, bytes)])).read p = (after directory added).read p

/-- Files in memory with an absolute working directory are a map over clean paths. -/
theorem mapLaw_of_isAbsolute (hd : directory.isAbsolute = true)
    (added : List (Path × ByteArray)) : MapLaw directory added where
  locate_eq := locate_after directory added
  locate_locate := by
    intro p
    have habs : (directory.join p).clean.isAbsolute = true :=
      isAbsolute_clean (isAbsolute_join hd p)
    simp only [locate_after]
    rw [join_of_isAbsolute habs, clean_clean]
  answers_of_locate := by
    intro p q h
    simp only [read, contains, isFile, h, and_self]
  read_ok_iff := by
    intro p bytes
    simp only [read_eq_ok_iff, bytesAt?_after_eq_some_iff, locate_after]
  read_error_iff := by
    intro p e
    simp only [read_eq_error_iff, bytesAt?_after_eq_none_iff, locate_after, and_comm]
  isFile_iff := fun _ => isFile_iff_read
  contains_iff := by
    intro p
    have hself : ∀ f : Path × ByteArray,
        ((directory.join f.1).clean = (directory.join p).clean ∨
          (directory.join p).clean.components <+: (directory.join f.1).clean.components) ↔
        (directory.join p).clean.components <+: (directory.join f.1).clean.components := by
      intro f
      exact or_iff_right_of_imp fun h => h ▸ List.prefix_rfl
    simp only [contains_after_iff, locate_after, hself]
  contains_of_isFile := by
    intro p h
    obtain ⟨bytes, hmem⟩ := (MemoryFiles.isFile_iff.mp h).mem_files
    rw [← MemoryFiles.locate_eq] at hmem
    exact MemoryFiles.contains_iff.mpr ⟨_, hmem, List.prefix_rfl⟩
  contains_parent := by
    intro p q h hq
    rw [locate_after] at hq
    exact contains_of_place hd h (place_parent?_clean hd hq)
  contains_up := fun p h => contains_of_place hd h (place_up hd p)
  contains_parent_as_written := fun _ _ h hup hq =>
    contains_of_place hd h (place_parent? hd hup hq)
  read_of_locate_ne := by
    intro p q bytes h
    have hlocate : ((after directory added).insert q bytes).locate p =
        (after directory added).locate p := by
      rw [← after_append_singleton directory added (q, bytes), locate_after, locate_after]
    rw [after_append_singleton, read, read, hlocate, bytesAt?_insert, if_neg h]

theorem mapLaw_app : (⟨"/app"⟩ : Path).isAbsolute = true ∧
    MapLaw ⟨"/app"⟩ [(⟨"src/a.js"⟩, "1".toUTF8), (⟨"./src//b/../a.js"⟩, "2".toUTF8)] :=
  ⟨by decide +kernel, mapLaw_of_isAbsolute (by decide +kernel) _⟩

end MemoryFiles

end BundleGraph
