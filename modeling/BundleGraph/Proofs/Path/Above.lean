import BundleGraph.Proofs.FileSystem.Memory

/-!
# What a path is in

The path that a path is in has all of its components but the last one.  From an absolute
directory both lead to clean paths, and the one is the start of the other unless the last component
is two dots, which lead up already.  To go up with two dots leads from every path to the start of
its clean path, since nothing is above the root.

## Main definitions

* `Path.components_of_parent?` — the components of what a path is in.
* `Path.place` — the components of the clean path that a path leads to from a directory.
* `Path.place_parent?_clean`, `Path.place_up`, `Path.place_parent?` — what is above a path leads to
  a start of its place.
-/

namespace BundleGraph.Path

variable {p q d : Path} {cs : List Char} {before ps : List (List Char)} {name : String}

/-! ## Pieces before the last one -/

theorem filterMap_takeWhile_isVoid (ps : List (List Char)) :
    (ps.takeWhile isVoid).reverse.filterMap component? = [] := by
  rw [List.filterMap_eq_nil_iff]
  intro piece hpiece
  rw [component?, if_pos (List.mem_takeWhile_imp (List.mem_reverse.mp hpiece))]

/-- The pieces before the last one that means something mean all but the last component. -/
theorem filterMap_of_piecesBefore (h : piecesBefore ps = some before) :
    before <+: ps ∧ ∃ c, ps.filterMap component? = before.filterMap component? ++ [c] := by
  rw [piecesBefore] at h
  split at h
  · cases h
  · rename_i last r hlast
    cases h
    have hps : ps = r.reverse ++ last :: (ps.reverse.takeWhile isVoid).reverse := by
      have happend := List.takeWhile_append_dropWhile (p := isVoid) (l := ps.reverse)
      rw [hlast] at happend
      simpa using congrArg List.reverse happend.symm
    have hr : r.reverse = (r.dropWhile isVoid).reverse ++ (r.takeWhile isVoid).reverse := by
      rw [← List.reverse_append, List.takeWhile_append_dropWhile]
    have hsome : isVoid last = false := by
      have hhead := List.head?_dropWhile_not isVoid ps.reverse
      rw [hlast] at hhead
      simpa using hhead
    obtain ⟨c, hc⟩ : ∃ c, component? last = some c := by
      rw [component?, hsome]
      simp only [Bool.false_eq_true, if_false]
      split <;> exact ⟨_, rfl⟩
    constructor
    · rw [hps, hr, List.append_assoc]
      exact List.prefix_append _ _
    · refine ⟨c, ?_⟩
      rw [hps, hr, List.filterMap_append, List.filterMap_append, List.filterMap_cons_some hc,
        filterMap_takeWhile_isVoid, filterMap_takeWhile_isVoid, List.append_nil]

/-- The first pieces of a text are read back from what they are written as. -/
theorem steps_unsplit_of_first (h : before <+: split cs) :
    steps (unsplit before) = before.filterMap component? := by
  by_cases hnil : before = []
  · rw [hnil]
    rfl
  · rw [steps, split_unsplit hnil fun piece hp => slash_not_mem_of_mem_split (h.subset hp)]

/-- The first pieces of a text that has no lead have none either. -/
theorem lead_unsplit_of_first (hroot : cs.head? ≠ some '/') (hdot : (split cs).head? ≠ some ['.'])
    (h : before <+: split cs) : lead (unsplit before) = [] := by
  cases before with
  | nil => rfl
  | cons piece rest =>
    have hsplit : split (unsplit (piece :: rest)) = piece :: rest :=
      split_unsplit (List.cons_ne_nil _ _) fun p hp => slash_not_mem_of_mem_split (h.subset hp)
    obtain ⟨after, hafter⟩ := h
    have hhead : (unsplit (piece :: rest)).head? ≠ some '/' := by
      intro hhead
      obtain ⟨cs', hcs'⟩ := List.head?_eq_some_iff.mp hhead
      rw [hcs', split_slash] at hsplit
      obtain ⟨rfl, -⟩ := List.cons.inj hsplit
      -- The first piece is empty only if the text is, and then there is no slash after it.
      cases cs with
      | nil =>
        obtain ⟨rfl, -⟩ : rest = [] ∧ after = [] := by simpa [split] using hafter
        cases hcs'
      | cons c cs =>
        have hc : c ≠ '/' := fun hc => hroot (congrArg some hc)
        obtain ⟨p, ps, -, hcons⟩ := split_cons hc cs
        rw [hcons] at hafter
        cases hafter
    rw [lead_of_ne hhead, hsplit, if_neg]
    rw [← hafter] at hdot
    exact hdot

/-! ## The components of what a path is in -/

/-- A path that starts with a dot is in what its pieces before the last one are written as after
the dot, or else in the empty path. -/
theorem parent?_of_dot (hroot : p.text.toList.head? ≠ some '/')
    (h : split p.text.toList = ['.'] :: ps) :
    p.parent? = some ((piecesBefore ps).elim ⟨""⟩ fun ps =>
      ⟨String.ofList (unsplit (['.'] :: ps))⟩) := by
  rw [parent?]
  split
  · rename_i cs htext
    rw [htext] at hroot
    exact absurd rfl hroot
  · simp only [h]
    cases piecesBefore ps <;> rfl

theorem components_of_dot (hroot : p.text.toList.head? ≠ some '/')
    (h : split p.text.toList = ['.'] :: ps) :
    p.components = .current :: ps.filterMap component? := by
  rw [components_eq, lead_of_ne hroot, steps, h]
  rfl

theorem split_unsplit_dot (h : split cs = ['.'] :: ps) (hb : before <+: ps) :
    split (unsplit (['.'] :: before)) = ['.'] :: before := by
  refine split_unsplit (List.cons_ne_nil _ _) fun piece hpiece => ?_
  have hmem : piece ∈ split cs := by
    rw [h]
    exact List.cons_subset_cons _ hb.subset hpiece
  exact slash_not_mem_of_mem_split hmem

/-- What a path is in has all of its components but the last one. -/
theorem components_of_parent? (h : p.parent? = some q) :
    ∃ c, p.components = q.components ++ [c] := by
  by_cases hroot : p.text.toList.head? = some '/'
  · obtain ⟨cs, htext⟩ := List.head?_eq_some_iff.mp hroot
    rw [parent?_of_toList htext] at h
    obtain ⟨before, hbefore, rfl⟩ := Option.map_eq_some_iff.mp h
    obtain ⟨hstart, c, hc⟩ := filterMap_of_piecesBefore hbefore
    refine ⟨c, ?_⟩
    rw [components_eq, components_eq, String.toList_ofList, htext, lead_slash, lead_slash, steps,
      split_slash, List.filterMap_cons_none rfl, hc]
    exact congrArg (Component.root :: · ++ [c]) (steps_unsplit_of_first hstart).symm
  · by_cases hdot : (split p.text.toList).head? = some ['.']
    · obtain ⟨ps, hps⟩ := List.head?_eq_some_iff.mp hdot
      rw [parent?_of_dot hroot hps] at h
      rw [components_of_dot hroot hps]
      cases hbefore : piecesBefore ps with
      | none =>
        rw [hbefore] at h
        cases h
        rw [filterMap_of_piecesBefore_none hbefore]
        exact ⟨.current, rfl⟩
      | some before =>
        rw [hbefore] at h
        cases h
        obtain ⟨hstart, c, hc⟩ := filterMap_of_piecesBefore hbefore
        have hq : (⟨String.ofList (unsplit (['.'] :: before))⟩ : Path).components =
            .current :: before.filterMap component? := by
          apply components_of_dot
          · rw [String.toList_ofList]
            cases before <;> simp [unsplit]
          · rw [String.toList_ofList, split_unsplit_dot hps hstart]
        refine ⟨c, ?_⟩
        rw [Option.elim_some, hq, hc, List.cons_append]
    · have hlead : lead p.text.toList = [] := by rw [lead_of_ne hroot, if_neg hdot]
      rw [parent?_of_lead hlead] at h
      obtain ⟨before, hbefore, rfl⟩ := Option.map_eq_some_iff.mp h
      obtain ⟨hstart, c, hc⟩ := filterMap_of_piecesBefore hbefore
      refine ⟨c, ?_⟩
      rw [components_eq, components_eq, String.toList_ofList, hlead,
        lead_unsplit_of_first hroot hdot hstart, steps_unsplit_of_first hstart, steps, hc]
      rfl

theorem not_isStep_root : ¬ Component.root.IsStep := fun h => h.chars_ne_nil rfl

/-- A path is absolute when its first component is the root. -/
theorem isAbsolute_iff_components : p.isAbsolute = true ↔ p.components.head? = some .root := by
  constructor
  · intro h
    obtain ⟨cs, -, hcs⟩ := components_of_isAbsolute h
    rw [hcs]
    rfl
  · intro h
    rw [isAbsolute_iff]
    by_contra hroot
    rw [components_eq, lead_of_ne hroot] at h
    split at h
    · cases h
    · exact absurd (isStep_of_mem_steps (List.mem_of_head? h)) not_isStep_root

/-- Only the first component of a path is the root or a dot. -/
theorem nil_of_components_append {cs : List Component} {c : Component}
    (h : p.components = cs ++ [c]) (hc : ¬ c.IsStep) : cs = [] := by
  rw [components_eq] at h
  rcases List.eq_nil_or_concat (steps p.text.toList) with hnil | ⟨before, last, hsteps⟩
  · rw [hnil, List.append_nil] at h
    have hlength := congrArg List.length h
    have hlead : (lead p.text.toList).length ≤ 1 := by
      unfold lead
      grind
    rw [List.length_append, List.length_singleton] at hlength
    exact List.length_eq_zero_iff.mp (by omega)
  · rw [hsteps, List.concat_eq_append, ← List.append_assoc] at h
    obtain ⟨-, hlast⟩ := List.append_inj' h rfl
    obtain rfl := List.singleton_inj.mp hlast
    have hmem : last ∈ steps p.text.toList := by simp [hsteps]
    exact absurd (isStep_of_mem_steps hmem) hc

/-! ## Places -/

/-- The components of the clean path that a path leads to from a directory. -/
def place (d p : Path) : List Component :=
  cleanComponents (d.join p).components

/-- What is neither the root nor two dots leads to something below. -/
theorem cleanComponents_below (cs : List Component) {c : Component} (hroot : c ≠ .root)
    (hparent : c ≠ .parent) : cleanComponents cs <+: cleanComponents (cs ++ [c]) := by
  cases c with
  | root => exact absurd rfl hroot
  | parent => exact absurd rfl hparent
  | current => simp [cleanComponents, cleanStep]
  | normal name =>
    rw [cleanComponents_append]
    exact List.prefix_append _ _

section
variable (hd : d.isAbsolute = true)
include hd

theorem text_ne_nil_of_isAbsolute : d.text.toList ≠ [] := by
  intro hnil
  rw [isAbsolute_iff, hnil] at hd
  cases hd

/-- The place of a path starts at the root. -/
theorem head?_place (p : Path) : (place d p).head? = some .root :=
  head?_cleanComponents (isAbsolute_join hd p)

theorem components_clean_join (p : Path) : (d.join p).clean.components = place d p := by
  refine components_clean fun hnil => ?_
  have hhead := head?_place hd p
  rw [place, hnil] at hhead
  cases hhead

/-- A relative path leads to the place that its components lead to after those of the directory. -/
theorem place_of_relative (hp : p.isAbsolute = false) :
    place d p = cleanComponents (d.components ++ p.components) := by
  have hroot : p.text.toList.head? ≠ some '/' := by
    rw [Ne, ← isAbsolute_iff, hp]
    exact Bool.false_ne_true
  rw [place, components_join hp (text_ne_nil_of_isAbsolute hd), components_eq p, lead_of_ne hroot]
  split
  · simp [cleanComponents, cleanStep]
  · rfl

/-- What the clean path of a path is in leads to the start of its place. -/
theorem place_parent?_clean (h : (d.join p).clean.parent? = some q) :
    place d q <+: place d p := by
  obtain ⟨c, hc⟩ := components_of_parent? h
  rw [components_clean_join hd] at hc
  have htidy := tidy_cleanComponents (d.join p)
  rw [← place, hc, List.reverse_append] at htidy
  have hq : q.isAbsolute = true :=
    isAbsolute_of_parent? (isAbsolute_clean (isAbsolute_join hd p)) h
  rw [hc, place, join_of_isAbsolute hq, cleanComponents_of_tidy htidy.tail]
  exact List.prefix_append _ _

/-- Unless a path ends in two dots, what it is in leads to the start of its place. -/
theorem place_parent? (hup : p.components.getLast? ≠ some .parent) (h : p.parent? = some q) :
    place d q <+: place d p := by
  obtain ⟨c, hc⟩ := components_of_parent? h
  have hparent : c ≠ .parent := by
    rintro rfl
    exact hup (by simp [hc])
  have hroot : c ≠ .root := by
    rintro rfl
    have hnil := nil_of_components_append hc not_isStep_root
    have hp : p.isAbsolute = true := isAbsolute_iff_components.mpr (by simp [hc, hnil])
    have hq := isAbsolute_iff_components.mp (isAbsolute_of_parent? hp h)
    rw [hnil] at hq
    cases hq
  by_cases hp : p.isAbsolute = true
  · have hq := isAbsolute_of_parent? hp h
    rw [place, place, join_of_isAbsolute hp, join_of_isAbsolute hq, hc]
    exact cleanComponents_below _ hroot hparent
  · have hq : q.isAbsolute = false := by
      refine Bool.eq_false_iff.mpr fun hq => hp ?_
      rw [isAbsolute_iff_components] at hq ⊢
      rw [hc, List.head?_append, hq]
      rfl
    rw [place_of_relative hd (Bool.eq_false_iff.mpr hp), place_of_relative hd hq, hc,
      ← List.append_assoc]
    exact cleanComponents_below _ hroot hparent

/-- To go up from a path is to go up from where it leads to. -/
theorem components_join_up (p : Path) :
    (d.join (p.join ⟨".."⟩)).components = (d.join p).components ++ [.parent] := by
  have hup : (⟨".."⟩ : Path).isAbsolute = false := by decide +kernel
  have hsteps : steps (⟨".."⟩ : Path).text.toList = [.parent] := by decide +kernel
  have hne := text_ne_nil_of_isAbsolute hd
  by_cases hp : p.text.toList = []
  · have hrelative : p.isAbsolute = false := by
      rw [Bool.eq_false_iff, Ne, isAbsolute_iff, hp]
      exact nofun
    rw [join_of_empty hp, components_join hup hne, components_join hrelative hne, hp, hsteps]
    exact congrArg (· ++ _) (List.append_nil _).symm
  · rw [components_join_join hup hp, hsteps]

/-- Two dots lead from a path to the start of its place. -/
theorem place_up (p : Path) : place d (p.join ⟨".."⟩) <+: place d p := by
  have htidy := tidy_cleanComponents (d.join p)
  have hhead := head?_place hd p
  rw [place, cleanComponents, List.head?_reverse] at hhead
  rw [cleanComponents, List.reverse_reverse] at htidy
  rw [place, place, components_join_up hd, cleanComponents, cleanComponents, List.foldl_append,
    List.foldl_cons, List.foldl_nil]
  generalize (d.join p).components.foldl cleanStep [] = done at *
  cases done with
  | nil => cases hhead
  | cons c done =>
    cases c with
    | root => exact List.prefix_rfl
    | current => exact htidy.elim
    | normal name =>
      rw [List.reverse_cons]
      exact List.prefix_append _ _
    | parent =>
      -- Above double dots there is no root.
      rcases List.mem_cons.mp (List.mem_of_getLast? hhead) with h | h
      · cases h
      · cases htidy _ h

end

end BundleGraph.Path
