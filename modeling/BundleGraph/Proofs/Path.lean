import BundleGraph.Path
import Mathlib.Data.List.Basic
import Mathlib.Data.List.TakeWhile

/-!
# Paths that mean the same

A path means its components, and what is read from a directory means the components of the
directory and then its own.  So two spellings of a directory lead to the same clean paths.
What is read from an absolute path is absolute, since nothing takes back the root.

## Main definitions

* `Path.steps` — the components of a text that starts inside a path.
* `Path.components_join` — what a path read from a directory means.
* `Path.clean_join_congr` — the clean path does not depend on how the directory is spelled.
* `Path.isAbsolute_clean`, `Path.isAbsolute_join` — paths that stay absolute.
-/

namespace BundleGraph.Path

/-- The components of a text that starts inside a path. -/
def steps (cs : List Char) : List Component :=
  (split cs).filterMap component?

/-- What the start of a text says: that it is absolute, or that a dot starts it, or nothing. -/
def lead : List Char → List Component
  | '/' :: _ => [.root]
  | cs => if (split cs).head? = some ['.'] then [.current] else []

/-! ## Pieces -/

theorem split_slash (cs : List Char) : split ('/' :: cs) = [] :: split cs := rfl

theorem split_ne_nil (cs : List Char) : split cs ≠ [] := by
  cases cs with
  | nil => exact List.cons_ne_nil _ _
  | cons c cs =>
    rw [split]
    split
    · exact List.cons_ne_nil _ _
    · split <;> exact List.cons_ne_nil _ _

/-- A character other than a slash belongs to the first piece. -/
theorem split_cons {c : Char} (hc : c ≠ '/') (cs : List Char) :
    ∃ p ps, split cs = p :: ps ∧ split (c :: cs) = (c :: p) :: ps := by
  obtain ⟨p, ps, h⟩ := List.exists_cons_of_ne_nil (split_ne_nil cs)
  refine ⟨p, ps, h, ?_⟩
  rw [split, if_neg hc, h]

/-- A slash ends the pieces before it. -/
theorem split_append_slash (xs ys : List Char) :
    split (xs ++ '/' :: ys) = split xs ++ split ys := by
  induction xs with
  | nil => rfl
  | cons c xs ih =>
    by_cases hc : c = '/'
    · rw [hc, List.cons_append, split_slash, split_slash, ih, List.cons_append]
    · obtain ⟨p, ps, hxs, hcxs⟩ := split_cons hc xs
      obtain ⟨p', ps', hrest, hall⟩ := split_cons hc (xs ++ '/' :: ys)
      rw [ih, hxs, List.cons_append] at hrest
      obtain ⟨rfl, rfl⟩ := List.cons.inj hrest
      rw [List.cons_append, hall, hcxs, List.cons_append]

/-- What follows a slash does not change the first piece. -/
theorem head?_split_append_slash (xs ys : List Char) :
    (split (xs ++ '/' :: ys)).head? = (split xs).head? := by
  rw [split_append_slash, List.head?_append_of_ne_nil _ (split_ne_nil xs)]

theorem steps_append_slash (xs ys : List Char) :
    steps (xs ++ '/' :: ys) = steps xs ++ steps ys := by
  rw [steps, split_append_slash, List.filterMap_append, steps, steps]

/-! ## Components -/

theorem lead_slash (cs : List Char) : lead ('/' :: cs) = [.root] := rfl

theorem lead_of_ne {cs : List Char} (h : cs.head? ≠ some '/') :
    lead cs = if (split cs).head? = some ['.'] then [.current] else [] := by
  cases cs with
  | nil => rfl
  | cons c cs =>
    rw [lead]
    intro cs' heq
    exact h (congrArg List.head? heq)

/-- A path means what its start says, and the steps of its text. -/
theorem components_eq (p : Path) :
    p.components = lead p.text.toList ++ steps p.text.toList := by
  rw [components]
  split
  · rename_i cs htext
    rw [htext, lead_slash, steps, split_slash]
    rfl
  · rename_i hne
    have hhead : p.text.toList.head? ≠ some '/' := by
      intro h
      obtain ⟨cs, hcs⟩ := List.head?_eq_some_iff.mp h
      exact hne cs hcs
    rw [lead_of_ne hhead, steps]
    split
    · rename_i ps hps
      rw [hps]
      rfl
    · rename_i hdot
      rw [if_neg]
      · rfl
      · intro h
        obtain ⟨ps, hps⟩ := List.head?_eq_some_iff.mp h
        exact hdot ps hps

/-- Only the empty path means nothing. -/
theorem components_eq_nil_iff {p : Path} : p.components = [] ↔ p.text.toList = [] := by
  rw [components_eq]
  cases p.text.toList with
  | nil => exact ⟨fun _ => rfl, fun _ => rfl⟩
  | cons c cs =>
    refine iff_of_false (fun h => ?_) (List.cons_ne_nil c cs)
    obtain ⟨hlead, hsteps⟩ := List.append_eq_nil_iff.mp h
    by_cases hc : c = '/'
    · rw [hc, lead_slash] at hlead
      cases hlead
    · obtain ⟨piece, ps, -, hsplit⟩ := split_cons hc cs
      have hhead : (c :: cs).head? ≠ some '/' := fun h => hc (Option.some.inj h)
      rw [lead_of_ne hhead, hsplit] at hlead
      rw [steps, hsplit] at hsteps
      -- A first piece that means nothing would be empty or a dot.
      by_cases hdot : c :: piece = ['.']
      · rw [hdot] at hlead
        cases hlead
      · have hvoid : isVoid (c :: piece) = false := by simpa [isVoid] using hdot
        have hsome : ∃ x, component? (c :: piece) = some x := by
          rw [component?, hvoid]
          simp only [Bool.false_eq_true, if_false]
          split <;> exact ⟨_, rfl⟩
        obtain ⟨x, hx⟩ := hsome
        rw [List.filterMap_cons_some hx] at hsteps
        cases hsteps

/-! ## Paths read from a directory -/

theorem lead_append_slash {xs : List Char} (hxs : xs ≠ []) (ys : List Char) :
    lead (xs ++ '/' :: ys) = lead xs := by
  obtain ⟨c, cs, rfl⟩ := List.exists_cons_of_ne_nil hxs
  by_cases hc : c = '/'
  · rw [hc]
    rfl
  · have hhead : ∀ zs, (c :: zs).head? ≠ some '/' := fun _ h => hc (Option.some.inj h)
    have hsplit := head?_split_append_slash (c :: cs) ys
    rw [List.cons_append] at hsplit ⊢
    rw [lead_of_ne (hhead _), lead_of_ne (hhead _), hsplit]

/-- What follows a slash does not count for the start. -/
theorem lead_append_slash_eq (xs ys zs : List Char) :
    lead (xs ++ '/' :: ys) = lead (xs ++ '/' :: zs) := by
  by_cases hxs : xs = []
  · rw [hxs]
    rfl
  · rw [lead_append_slash hxs, lead_append_slash hxs]

/-- In a path read from a directory, a slash stands between the two. -/
theorem exists_join_text {d s : Path} (hs : s.isAbsolute = false) (hd : d.text.toList ≠ []) :
    ∃ xs, (d.join s).text.toList = xs ++ '/' :: s.text.toList ∧
      lead (xs ++ '/' :: s.text.toList) = lead d.text.toList ∧ steps xs = steps d.text.toList := by
  have hempty : d.text.isEmpty = false :=
    Bool.eq_false_iff.mpr fun h => hd (by rw [String.isEmpty_iff.mp h]; rfl)
  by_cases hlast : d.text.toList.getLast? = some '/'
  · obtain ⟨xs, hxs⟩ := List.getLast?_eq_some_iff.mp hlast
    refine ⟨xs, ?_, ?_, ?_⟩
    · simp [join, hs, String.toList_append, hxs]
    · rw [hxs]
      exact lead_append_slash_eq xs _ []
    · rw [hxs, steps_append_slash]
      exact (List.append_nil _).symm
  · refine ⟨d.text.toList, ?_, lead_append_slash hd _, rfl⟩
    simp [join, hs, hlast, hempty, String.toList_append]

/-- A path read from a directory means the directory and then its own steps. -/
theorem components_join {d s : Path} (hs : s.isAbsolute = false) (hd : d.text.toList ≠ []) :
    (d.join s).components = d.components ++ steps s.text.toList := by
  obtain ⟨xs, htext, hlead, hsteps⟩ := exists_join_text hs hd
  rw [components_eq, components_eq, htext, hlead, steps_append_slash, hsteps, List.append_assoc]

theorem clean_congr {p p' : Path} (h : p.components = p'.components) : p.clean = p'.clean := by
  rw [clean, clean, h]

/-- The clean path of what is read from a directory does not depend on how the directory is
spelled. -/
theorem clean_join_congr {d d' : Path} (h : d.components = d'.components) (s : Path) :
    (d.join s).clean = (d'.join s).clean := by
  by_cases hs : s.isAbsolute = true
  · rw [join, join, if_pos hs, if_pos hs]
  · have hs : s.isAbsolute = false := Bool.eq_false_iff.mpr hs
    by_cases hd : d.text.toList = []
    · have hd' : d'.text.toList = [] := by
        rw [← components_eq_nil_iff, ← h, components_eq_nil_iff]
        exact hd
      have htext : d.text = d'.text := String.toList_injective (hd.trans hd'.symm)
      rw [join, join, htext]
    · have hd' : d'.text.toList ≠ [] := by
        rw [Ne, ← components_eq_nil_iff, ← h, components_eq_nil_iff]
        exact hd
      apply clean_congr
      rw [components_join hs hd, components_join hs hd', h]

/-! ## Absolute paths -/

theorem isAbsolute_iff {p : Path} : p.isAbsolute = true ↔ p.text.toList.head? = some '/' := by
  simp [isAbsolute]

theorem components_of_isAbsolute {p : Path} (h : p.isAbsolute = true) :
    ∃ cs, p.text.toList = '/' :: cs ∧
      p.components = .root :: (split cs).filterMap component? := by
  obtain ⟨cs, hcs⟩ := List.head?_eq_some_iff.mp (isAbsolute_iff.mp h)
  exact ⟨cs, hcs, by simp only [components, hcs]⟩

theorem isAbsolute_ofComponents (cs : List Component) :
    (ofComponents (.root :: cs)).isAbsolute = true := by
  rw [isAbsolute_iff, ofComponents, String.toList_ofList]
  rfl

/-- A step does not take back the root. -/
theorem getLast?_cleanStep {done : List Component} (h : done.getLast? = some .root)
    (c : Component) : (cleanStep done c).getLast? = some .root := by
  have hcons : ∀ c, (c :: done).getLast? = some .root := fun c => by
    rw [List.getLast?_cons, h]
    rfl
  cases c with
  | current => exact h
  | root => exact hcons .root
  | normal name => exact hcons (.normal name)
  | parent =>
    cases done with
    | nil => cases h
    | cons d ds =>
      cases d with
      | root => exact h
      | current => exact hcons .parent
      | parent => exact hcons .parent
      | normal name =>
        rw [List.getLast?_cons] at h
        cases hds : ds.getLast? with
        | none =>
          rw [hds] at h
          cases h
        | some c =>
          rw [hds] at h
          exact hds.trans h

/-- Nothing takes back the root of an absolute path. -/
theorem head?_cleanComponents {p : Path} (h : p.isAbsolute = true) :
    (cleanComponents p.components).head? = some .root := by
  obtain ⟨cs, -, hcs⟩ := components_of_isAbsolute h
  have hlast : ∀ (cs done : List Component), done.getLast? = some .root →
      (cs.foldl cleanStep done).getLast? = some .root := by
    intro cs
    induction cs with
    | nil => exact fun _ h => h
    | cons c cs ih => exact fun done h => ih _ (getLast?_cleanStep h c)
  rw [cleanComponents, hcs, List.foldl_cons, List.head?_reverse]
  exact hlast _ _ rfl

theorem isAbsolute_clean {p : Path} (h : p.isAbsolute = true) : p.clean.isAbsolute = true := by
  obtain ⟨rest, hrest⟩ := List.head?_eq_some_iff.mp (head?_cleanComponents h)
  rw [clean, hrest]
  exact isAbsolute_ofComponents rest

theorem isAbsolute_join {d : Path} (h : d.isAbsolute = true) (s : Path) :
    (d.join s).isAbsolute = true := by
  by_cases hs : s.isAbsolute = true
  · rw [join, if_pos hs]
    exact hs
  · have hd := isAbsolute_iff.mp h
    rw [join, if_neg hs]
    split <;> simp [isAbsolute_iff, String.toList_append, List.head?_append, hd]

theorem parent?_of_toList {p : Path} {cs : List Char} (h : p.text.toList = '/' :: cs) :
    p.parent? = (piecesBefore (split cs)).map fun ps => ⟨String.ofList ('/' :: unsplit ps)⟩ := by
  simp only [parent?, h]

/-- What an absolute path is in is absolute. -/
theorem isAbsolute_of_parent? {p d : Path} (h : p.isAbsolute = true) (hd : p.parent? = some d) :
    d.isAbsolute = true := by
  obtain ⟨cs, hcs, -⟩ := components_of_isAbsolute h
  rw [parent?_of_toList hcs] at hd
  obtain ⟨ps, -, rfl⟩ := Option.map_eq_some_iff.mp hd
  rw [isAbsolute_iff, String.toList_ofList]
  rfl

/-- Without a piece before a last one that means something, no piece does. -/
theorem filterMap_of_piecesBefore_none {ps : List (List Char)} (h : piecesBefore ps = none) :
    ps.filterMap component? = [] := by
  rw [List.filterMap_eq_nil_iff]
  intro piece hpiece
  have hdrop : ps.reverse.dropWhile isVoid = [] := by
    rw [piecesBefore] at h
    split at h
    · assumption
    · cases h
  have hv := List.dropWhile_eq_nil_iff.mp hdrop piece (List.mem_reverse.mpr hpiece)
  rw [component?, if_pos hv]

/-- An absolute path that ends in a name is in a directory. -/
theorem exists_parent? {p : Path} (h : p.isAbsolute = true) {name : String}
    (hn : p.fileName? = some name) : ∃ d, p.parent? = some d := by
  obtain ⟨cs, hcs, hcomponents⟩ := components_of_isAbsolute h
  rw [← Option.isSome_iff_exists, parent?_of_toList hcs, Option.isSome_map,
    Option.isSome_iff_ne_none]
  intro hnone
  -- Without a piece that means something, the path would end at the root.
  rw [fileName?, hcomponents, filterMap_of_piecesBefore_none hnone] at hn
  cases hn

theorem isAbsolute_withFileName {p : Path} (h : p.isAbsolute = true) (name : String) :
    (p.withFileName name).isAbsolute = true := by
  rw [withFileName]
  cases hn : p.fileName? with
  | none => exact isAbsolute_join h _
  | some n =>
    obtain ⟨d, hd⟩ := exists_parent? h hn
    simp only [hd, Option.getD_some]
    exact isAbsolute_join (isAbsolute_of_parent? h hd) _

end BundleGraph.Path
