import BundleGraph.Proofs.Path
import Mathlib.Data.List.Induction

/-!
# Clean paths

The components of a clean path are the root or some double dots, and then names.  Such components
are read back from the text that is written of them, so that to clean a path again changes
nothing.

A clean path that ends in a name has the rest of its components as its parent, and another last
name takes the place of its own.

## Main definitions

* `Path.Component.IsStep` — a component that is read back from its own characters.
* `Path.Tidy` — the components of clean paths, the last one first.
* `Path.components_ofComponents` — tidy components are read back from their text.
* `Path.clean_clean` — to clean a path twice is to clean it once.
* `Path.exists_of_fileName?` — clean paths that end in a name.
* `Path.parent?_ofComponents`, `Path.join_ofComponents` — what such a path is in, and paths in it.
-/

namespace BundleGraph.Path

/-- A component that is read back from its own characters, wherever it stands in a path: two dots,
or a name. -/
def Component.IsStep (c : Component) : Prop :=
  '/' ∉ c.chars ∧ component? c.chars = some c

/-! ## Pieces of a text -/

theorem split_of_not_mem {cs : List Char} (h : '/' ∉ cs) : split cs = [cs] := by
  induction cs with
  | nil => rfl
  | cons c cs ih =>
    rw [List.mem_cons, not_or] at h
    rw [split, if_neg (Ne.symm h.1), ih h.2]

theorem slash_not_mem_of_mem_split {cs p : List Char} (h : p ∈ split cs) : '/' ∉ p := by
  induction cs generalizing p with
  | nil =>
    rw [List.mem_singleton.mp h]
    exact List.not_mem_nil
  | cons c cs ih =>
    by_cases hc : c = '/'
    · rw [hc, split_slash] at h
      rcases List.mem_cons.mp h with rfl | h
      · exact List.not_mem_nil
      · exact ih h
    · obtain ⟨q, qs, hcs, hsplit⟩ := split_cons hc cs
      rw [hsplit] at h
      rcases List.mem_cons.mp h with rfl | h
      · have hq : '/' ∉ q := ih (hcs ▸ List.mem_cons_self)
        rw [List.mem_cons, not_or]
        exact ⟨Ne.symm hc, hq⟩
      · exact ih (hcs ▸ List.mem_cons_of_mem q h)

theorem unsplit_cons {p : List Char} {ps : List (List Char)} (h : ps ≠ []) :
    unsplit (p :: ps) = p ++ '/' :: unsplit ps := by
  cases ps with
  | nil => exact absurd rfl h
  | cons q qs => rfl

theorem unsplit_append_singleton {ps : List (List Char)} (h : ps ≠ []) (q : List Char) :
    unsplit (ps ++ [q]) = unsplit ps ++ '/' :: q := by
  induction ps with
  | nil => exact absurd rfl h
  | cons p ps ih =>
    by_cases hps : ps = []
    · rw [hps]
      rfl
    · rw [List.cons_append, unsplit_cons (by simp), ih hps, unsplit_cons hps, List.append_assoc,
        List.cons_append]

/-- What is put to the last piece is put to the text. -/
theorem unsplit_extend (ps : List (List Char)) (p q : List Char) :
    unsplit (ps ++ [p ++ q]) = unsplit (ps ++ [p]) ++ q := by
  by_cases hps : ps = []
  · rw [hps]
    rfl
  · rw [unsplit_append_singleton hps, unsplit_append_singleton hps, List.append_assoc,
      List.cons_append]

/-- Pieces without slashes are read back from their text. -/
theorem split_unsplit {ps : List (List Char)} (hne : ps ≠ []) (h : ∀ p ∈ ps, '/' ∉ p) :
    split (unsplit ps) = ps := by
  induction ps with
  | nil => exact absurd rfl hne
  | cons p ps ih =>
    have hp := split_of_not_mem (h p List.mem_cons_self)
    by_cases hps : ps = []
    · rw [hps]
      exact hp
    · rw [unsplit_cons hps, split_append_slash, hp,
        ih hps fun q hq => h q (List.mem_cons_of_mem p hq), List.singleton_append]

/-! ## Steps -/

theorem isStep_of_component? {piece : List Char} {c : Component} (hpiece : '/' ∉ piece)
    (h : component? piece = some c) : c.IsStep := by
  have hchars : c.chars = piece := by
    rw [component?] at h
    split at h
    · cases h
    · split at h
      · rename_i hdots
        cases h
        exact (eq_of_beq hdots).symm
      · cases h
        exact String.toList_ofList
  rw [Component.IsStep, hchars]
  exact ⟨hpiece, h⟩

theorem isStep_of_mem_steps {cs : List Char} {c : Component} (h : c ∈ steps cs) : c.IsStep := by
  obtain ⟨piece, hpiece, hc⟩ := List.mem_filterMap.mp h
  exact isStep_of_component? (slash_not_mem_of_mem_split hpiece) hc

theorem isStep_parent : Component.parent.IsStep := by
  constructor <;> decide

/-- A long name without slashes is a step. -/
theorem isStep_normal {name : String} (hslash : '/' ∉ name.toList)
    (hlength : 2 < name.toList.length) : (Component.normal name).IsStep := by
  refine ⟨hslash, ?_⟩
  have hne : ∀ l : List Char, l.length ≤ 2 → name.toList ≠ l := by
    rintro l hl heq
    rw [heq] at hlength
    omega
  have hvoid : isVoid name.toList = false := by
    simp [isVoid, hne [] (by decide), hne ['.'] (by decide)]
  rw [Component.chars, component?, hvoid, if_neg Bool.false_ne_true,
    if_neg (by simpa using hne ['.', '.'] (by decide)), String.ofList_toList]

namespace Component.IsStep

variable {c : Component}

theorem isVoid_eq (h : c.IsStep) : isVoid c.chars = false := by
  refine Bool.eq_false_iff.mpr fun hv => ?_
  have hnone := h.2
  rw [component?, if_pos hv] at hnone
  cases hnone

theorem chars_ne_nil (h : c.IsStep) : c.chars ≠ [] := by
  intro hnil
  have hv := h.isVoid_eq
  rw [hnil] at hv
  cases hv

theorem chars_ne_dot (h : c.IsStep) : c.chars ≠ ['.'] := by
  intro hdot
  have hv := h.isVoid_eq
  rw [hdot] at hv
  cases hv

end Component.IsStep

section
variable {cs : List Component} (h : ∀ c ∈ cs, c.IsStep)
include h

theorem forall_isStep_append {c : Component} (hc : c.IsStep) : ∀ d ∈ cs ++ [c], d.IsStep :=
  List.forall_mem_append.mpr ⟨h, List.forall_mem_singleton.mpr hc⟩

theorem isVoid_of_mem_chars : ∀ p ∈ cs.map Component.chars, isVoid p = false := by
  intro p hp
  obtain ⟨c, hc, rfl⟩ := List.mem_map.mp hp
  exact (h c hc).isVoid_eq

theorem slash_not_mem_chars : ∀ p ∈ cs.map Component.chars, '/' ∉ p := by
  intro p hp
  obtain ⟨c, hc, rfl⟩ := List.mem_map.mp hp
  exact (h c hc).1

/-- Steps are read back from the text that is written of them. -/
theorem steps_unsplit : steps (unsplit (cs.map Component.chars)) = cs := by
  by_cases hnil : cs = []
  · rw [hnil]
    rfl
  · rw [steps, split_unsplit (by simpa using hnil) (slash_not_mem_chars h), List.filterMap_map]
    have hself : cs.filterMap (component? ∘ Component.chars) = cs.filterMap some :=
      List.filterMap_congr fun c hc => (h c hc).2
    rw [hself, List.filterMap_some]

/-- Nothing leads the text of steps. -/
theorem lead_unsplit : lead (unsplit (cs.map Component.chars)) = [] := by
  cases cs with
  | nil => rfl
  | cons c cs =>
    have hc := h c List.mem_cons_self
    have hsplit : split (unsplit ((c :: cs).map Component.chars)) =
        (c :: cs).map Component.chars :=
      split_unsplit (by simp) (slash_not_mem_chars h)
    have hhead : (unsplit ((c :: cs).map Component.chars)).head? ≠ some '/' := by
      intro hslash
      obtain ⟨rest, hrest⟩ := List.head?_eq_some_iff.mp hslash
      rw [hrest, split_slash, List.map_cons] at hsplit
      exact hc.chars_ne_nil (List.cons.inj hsplit).1.symm
    rw [lead_of_ne hhead, hsplit, if_neg]
    exact fun hdot => hc.chars_ne_dot (Option.some.inj hdot)

end

/-! ## Tidy components -/

/-- The components of a clean path, the last one first: names above the root or double dots. -/
def Tidy : List Component → Prop
  | [] => True
  | .root :: r => r = []
  | .current :: _ => False
  | .parent :: r => ∀ c ∈ r, c = .parent
  | .normal name :: r => (Component.normal name).IsStep ∧ Tidy r

/-- To take in one more component keeps components tidy. -/
theorem Tidy.cleanStep {done : List Component} {c : Component} (h : Tidy done)
    (hc : c = .current ∨ c.IsStep) : Tidy (cleanStep done c) := by
  cases c with
  | root => exact absurd rfl (hc.resolve_left nofun).chars_ne_nil
  | current => exact h
  | normal name => exact ⟨hc.resolve_left nofun, h⟩
  | parent =>
    cases done with
    | nil => exact fun c hc => nomatch hc
    | cons d ds =>
      cases d with
      | root => exact h
      | current => exact h.elim
      | parent => exact List.forall_mem_cons.mpr ⟨rfl, h⟩
      | normal name => exact h.2

/-- The components of a path become tidy. -/
theorem tidy_cleanComponents (p : Path) : Tidy (cleanComponents p.components).reverse := by
  have hfold : ∀ (cs done : List Component), (∀ c ∈ cs, c = .current ∨ c.IsStep) → Tidy done →
      Tidy (cs.foldl Path.cleanStep done) := by
    intro cs
    induction cs with
    | nil => exact fun _ _ h => h
    | cons c cs ih =>
      intro done hcs h
      exact ih _ (fun c hc => hcs c (List.mem_cons_of_mem _ hc))
        (h.cleanStep (hcs c List.mem_cons_self))
  have hsteps : ∀ c ∈ steps p.text.toList, c = .current ∨ c.IsStep :=
    fun c hc => .inr (isStep_of_mem_steps hc)
  rw [cleanComponents, List.reverse_reverse, components_eq]
  -- Only the root at the start is no step and no dot.
  cases htext : p.text.toList with
  | nil => exact trivial
  | cons c cs =>
    rw [htext] at hsteps
    by_cases hc : c = '/'
    · rw [hc, lead_slash, List.singleton_append, List.foldl_cons]
      rw [hc] at hsteps
      exact hfold _ _ hsteps rfl
    · have hhead : (c :: cs).head? ≠ some '/' := fun h => hc (Option.some.inj h)
      rw [lead_of_ne hhead]
      refine hfold _ _ ?_ trivial
      split
      · exact List.forall_mem_cons.mpr ⟨.inl rfl, hsteps⟩
      · exact hsteps

theorem Tidy.tail {c : Component} {done : List Component} (h : Tidy (c :: done)) : Tidy done := by
  cases c with
  | root =>
    rw [show done = [] from h]
    exact trivial
  | current => exact h.elim
  | normal name => exact h.2
  | parent =>
    cases done with
    | nil => exact trivial
    | cons d ds =>
      rw [h d List.mem_cons_self]
      exact fun c hc => h c (List.mem_cons_of_mem d hc)

/-- Tidy components stay as they are. -/
theorem Tidy.foldl_reverse {done : List Component} (h : Tidy done) :
    done.reverse.foldl Path.cleanStep [] = done := by
  induction done with
  | nil => rfl
  | cons c done ih =>
    rw [List.reverse_cons, List.foldl_append, List.foldl_cons, List.foldl_nil]
    cases c with
    | root =>
      rw [show done = [] from h]
      rfl
    | current => exact h.elim
    | normal name =>
      rw [ih h.2]
      rfl
    | parent =>
      rw [ih h.tail]
      cases done with
      | nil => rfl
      | cons d ds =>
        rw [h d List.mem_cons_self]
        rfl

theorem cleanComponents_of_tidy {cs : List Component} (h : Tidy cs.reverse) :
    cleanComponents cs = cs := by
  have hfold := h.foldl_reverse
  rw [List.reverse_reverse] at hfold
  rw [cleanComponents, hfold, List.reverse_reverse]

/-- Tidy components are steps, perhaps after the root. -/
theorem Tidy.root_or_steps {cs : List Component} (h : Tidy cs.reverse) :
    (∃ rest, cs = .root :: rest ∧ ∀ c ∈ rest, c.IsStep) ∨ ∀ c ∈ cs, c.IsStep := by
  induction cs using List.reverseRecOn with
  | nil => exact .inr fun c hc => nomatch hc
  | append_singleton cs c ih =>
    rw [List.reverse_append, List.reverse_singleton, List.singleton_append] at h
    cases c with
    | root =>
      rw [List.reverse_eq_nil_iff.mp h]
      exact .inl ⟨[], rfl, fun c hc => nomatch hc⟩
    | current => exact h.elim
    | normal name =>
      rcases ih h.2 with ⟨rest, rfl, hrest⟩ | hsteps
      · exact .inl ⟨rest ++ [.normal name], rfl, forall_isStep_append hrest h.1⟩
      · exact .inr (forall_isStep_append hsteps h.1)
    | parent =>
      refine .inr (forall_isStep_append (fun c hc => ?_) isStep_parent)
      rw [h c (List.mem_reverse.mpr hc)]
      exact isStep_parent

/-! ## Clean paths -/

theorem toList_ofComponents_root (cs : List Component) :
    (ofComponents (.root :: cs)).text.toList = '/' :: unsplit (cs.map Component.chars) :=
  String.toList_ofList

theorem toList_ofComponents_steps {cs : List Component} (h : ∀ c ∈ cs, c.IsStep) :
    (ofComponents cs).text.toList = unsplit (cs.map Component.chars) := by
  cases cs with
  | nil => rfl
  | cons c cs =>
    cases c with
    | root => exact absurd rfl (h _ List.mem_cons_self).chars_ne_nil
    | current => exact absurd rfl (h _ List.mem_cons_self).chars_ne_dot
    | parent => exact String.toList_ofList
    | normal name => exact String.toList_ofList

/-- Tidy components are read back from the text that is written of them. -/
theorem components_ofComponents {cs : List Component} (h : Tidy cs.reverse) :
    (ofComponents cs).components = cs := by
  rw [components_eq]
  rcases h.root_or_steps with ⟨rest, rfl, hrest⟩ | hsteps
  · rw [toList_ofComponents_root, lead_slash]
    change [Component.root] ++ steps (unsplit _) = _
    rw [steps_unsplit hrest, List.singleton_append]
  · rw [toList_ofComponents_steps hsteps, lead_unsplit hsteps, steps_unsplit hsteps,
      List.nil_append]

theorem clean_ofComponents {cs : List Component} (hne : cs ≠ []) (h : Tidy cs.reverse) :
    (ofComponents cs).clean = ofComponents cs := by
  rw [clean, components_ofComponents h, cleanComponents_of_tidy h]
  cases cs with
  | nil => exact absurd rfl hne
  | cons c cs => rfl

/-- A path becomes a dot, or is written anew of tidy components. -/
theorem clean_eq_dot_or (p : Path) :
    p.clean = ⟨"."⟩ ∨ ∃ cs, cs ≠ [] ∧ Tidy cs.reverse ∧ p.clean = ofComponents cs := by
  have htidy := tidy_cleanComponents p
  rw [clean]
  cases hcs : cleanComponents p.components with
  | nil => exact .inl rfl
  | cons c cs =>
    rw [hcs] at htidy
    exact .inr ⟨c :: cs, List.cons_ne_nil c cs, htidy, rfl⟩

/-- To clean a clean path changes nothing. -/
theorem clean_clean (p : Path) : p.clean.clean = p.clean := by
  rcases p.clean_eq_dot_or with hdot | ⟨cs, hne, htidy, hcs⟩
  · rw [hdot]
    decide +kernel
  · rw [hcs, clean_ofComponents hne htidy]

/-! ## Clean paths that end in a name -/

theorem eq_of_toList {p q : Path} (h : p.text.toList = q.text.toList) : p = q :=
  congrArg mk (String.toList_injective h)

/-- A clean path that ends in a name is written of tidy components and the name. -/
theorem exists_of_fileName? {p : Path} {name : String} (hc : p.clean = p)
    (hn : p.fileName? = some name) :
    ∃ cs, Tidy cs.reverse ∧ (Component.normal name).IsStep ∧
      p = ofComponents (cs ++ [.normal name]) := by
  rcases p.clean_eq_dot_or with hdot | ⟨cs, -, htidy, hcs⟩
  · rw [← hc, hdot] at hn
    have hnone : (⟨"."⟩ : Path).fileName? = none := by decide +kernel
    rw [hnone] at hn
    cases hn
  · rw [hc] at hcs
    rw [fileName?, hcs, components_ofComponents htidy] at hn
    split at hn
    · rename_i n hlast
      cases hn
      obtain ⟨init, rfl⟩ := List.getLast?_eq_some_iff.mp hlast
      rw [List.reverse_append, List.reverse_singleton, List.singleton_append] at htidy
      exact ⟨init, htidy.2, htidy.1, hcs⟩
    · cases hn

section
variable {cs : List Component} {name : String} (h : Tidy cs.reverse)
  (hn : (Component.normal name).IsStep)
include h hn

theorem tidy_append : Tidy (cs ++ [Component.normal name]).reverse := by
  rw [List.reverse_append, List.reverse_singleton, List.singleton_append]
  exact ⟨hn, h⟩

theorem clean_ofComponents_append :
    (ofComponents (cs ++ [.normal name])).clean = ofComponents (cs ++ [.normal name]) :=
  clean_ofComponents (by simp) (tidy_append h hn)

theorem fileName?_ofComponents : (ofComponents (cs ++ [.normal name])).fileName? = some name := by
  rw [fileName?, components_ofComponents (tidy_append h hn), List.getLast?_append_cons]
  rfl

theorem toList_ofComponents :
    (ofComponents (cs ++ [.normal name])).text.toList =
      unsplit (cs.map Component.chars ++ [name.toList]) := by
  rcases h.root_or_steps with ⟨rest, rfl, -⟩ | hsteps
  · have hne : rest.map Component.chars ++ [name.toList] ≠ [] := by simp
    rw [List.cons_append, toList_ofComponents_root, List.map_append]
    exact (unsplit_cons (p := []) hne).symm
  · rw [toList_ofComponents_steps (forall_isStep_append hsteps hn), List.map_append]
    rfl

end

/-- What the last name is lengthened by stands at the end of the path. -/
theorem ofComponents_extend {cs : List Component} {name ending : String} (h : Tidy cs.reverse)
    (hn : (Component.normal name).IsStep) (hn' : (Component.normal (name ++ ending)).IsStep) :
    ofComponents (cs ++ [.normal (name ++ ending)]) =
      ⟨(ofComponents (cs ++ [.normal name])).text ++ ending⟩ := by
  apply eq_of_toList
  rw [String.toList_append, toList_ofComponents h hn, toList_ofComponents h hn',
    String.toList_append, unsplit_extend]

/-- What stands in a path that ends in a name is written after a slash. -/
theorem ofComponents_below {cs : List Component} {name name' : String} (h : Tidy cs.reverse)
    (hn : (Component.normal name).IsStep) (hn' : (Component.normal name').IsStep) :
    ofComponents (cs ++ [.normal name] ++ [.normal name']) =
      ⟨(ofComponents (cs ++ [.normal name])).text ++ ("/" ++ name')⟩ := by
  apply eq_of_toList
  rw [String.toList_append, String.toList_append, toList_ofComponents h hn,
    toList_ofComponents (tidy_append h hn) hn', unsplit_append_singleton (by simp), List.map_append]
  rfl

/-! ### What a path is in -/

theorem piecesBefore_append {ps : List (List Char)} {p : List Char}
    (hps : ∀ q ∈ ps, isVoid q = false) (hp : isVoid p = false) :
    piecesBefore (ps ++ [p]) = some ps := by
  have hdrop : ps.reverse.dropWhile isVoid = ps.reverse := by
    cases hr : ps.reverse with
    | nil => rfl
    | cons q qs =>
      have hq := hps q (List.mem_reverse.mp (hr ▸ List.mem_cons_self))
      rw [List.dropWhile_cons_of_neg (by simp [hq])]
  rw [piecesBefore, List.reverse_append, List.reverse_singleton, List.singleton_append,
    List.dropWhile_cons_of_neg (by simp [hp])]
  simp only [hdrop, List.reverse_reverse]

/-- A path that starts neither at the root nor with a dot is in what its pieces before the last
one are written as. -/
theorem parent?_of_lead {p : Path} (h : lead p.text.toList = []) :
    p.parent? =
      (piecesBefore (split p.text.toList)).map fun ps => ⟨String.ofList (unsplit ps)⟩ := by
  rw [parent?]
  split
  · rename_i cs htext
    rw [htext, lead_slash] at h
    cases h
  · rename_i hroot
    split
    · rename_i ps hsplit
      rw [lead_of_ne, hsplit] at h
      · cases h
      · intro hhead
        obtain ⟨cs, hcs⟩ := List.head?_eq_some_iff.mp hhead
        exact hroot cs hcs
    · rfl

/-- A path that ends in a name has pieces before it, which are those of its other components. -/
theorem piecesBefore_steps {cs : List Component} {c : Component} (h : ∀ d ∈ cs, d.IsStep)
    (hc : c.IsStep) :
    piecesBefore (split (unsplit ((cs ++ [c]).map Component.chars))) =
      some (cs.map Component.chars) := by
  rw [split_unsplit (by simp) (slash_not_mem_chars (forall_isStep_append h hc)), List.map_append]
  exact piecesBefore_append (isVoid_of_mem_chars h) hc.isVoid_eq

/-! ### What is below a path -/

/-- The text of a path read from a directory whose text is empty or ends with a slash. -/
theorem toList_join_open {d s : Path} (hs : s.isAbsolute = false)
    (hd : d.text.toList = [] ∨ d.text.toList.getLast? = some '/') :
    (d.join s).text.toList = d.text.toList ++ s.text.toList := by
  rw [join, if_neg (Bool.eq_false_iff.mp hs), if_pos, String.toList_append]
  rw [Bool.or_eq_true, String.isEmpty_iff, beq_iff_eq, ← String.toList_eq_nil_iff]
  exact hd

/-- The text of a path read from a directory whose text ends with another character. -/
theorem toList_join_closed {d s : Path} {c : Char} (hs : s.isAbsolute = false)
    (hd : d.text.toList.getLast? = some c) (hc : c ≠ '/') :
    (d.join s).text.toList = d.text.toList ++ '/' :: s.text.toList := by
  have hne : d.text.toList ≠ [] := by
    intro hnil
    rw [hnil] at hd
    cases hd
  rw [join, if_neg (Bool.eq_false_iff.mp hs), if_neg, String.toList_append, String.toList_append,
    List.append_assoc]
  · rfl
  · rw [Bool.or_eq_true, String.isEmpty_iff, beq_iff_eq, ← String.toList_eq_nil_iff, hd]
    exact fun h => h.elim hne fun hlast => hc (Option.some.inj hlast)

/-- A text ends like the last of its pieces. -/
theorem getLast?_unsplit (ps : List (List Char)) {p : List Char} (hp : p ≠ []) :
    (unsplit (ps ++ [p])).getLast? = p.getLast? := by
  by_cases hps : ps = []
  · rw [hps]
    rfl
  · rw [unsplit_append_singleton hps, List.getLast?_append, List.getLast?_cons]
    cases hlast : p.getLast? with
    | none => exact absurd (List.getLast?_eq_none_iff.mp hlast) hp
    | some c => rfl

/-- The text of steps does not end with a slash. -/
theorem getLast?_unsplit_steps {cs : List Component} (h : ∀ c ∈ cs, c.IsStep) (hne : cs ≠ []) :
    ∃ c, (unsplit (cs.map Component.chars)).getLast? = some c ∧ c ≠ '/' := by
  obtain ⟨init, last, rfl⟩ := (List.eq_nil_or_concat cs).resolve_left hne
  have hlast : last.IsStep := h last (by simp)
  have hsome : last.chars.getLast? ≠ none :=
    fun hnone => hlast.chars_ne_nil (List.getLast?_eq_none_iff.mp hnone)
  obtain ⟨c, hc⟩ := Option.ne_none_iff_exists'.mp hsome
  refine ⟨c, ?_, fun hslash => hlast.1 (hslash ▸ List.mem_of_getLast? hc)⟩
  rw [List.map_concat, List.concat_eq_append, getLast?_unsplit _ hlast.chars_ne_nil, hc]

section
variable {cs : List Component} {name : String} (h : Tidy cs.reverse)
  (hn : (Component.normal name).IsStep)
include h hn

/-- A clean path that ends in a name is in what its other components are written as. -/
theorem parent?_ofComponents :
    (ofComponents (cs ++ [.normal name])).parent? = some (ofComponents cs) := by
  rcases h.root_or_steps with ⟨rest, rfl, hrest⟩ | hsteps
  · rw [List.cons_append, parent?_of_toList (toList_ofComponents_root _),
      piecesBefore_steps hrest hn]
    rfl
  · have hall := forall_isStep_append hsteps hn
    have htext := toList_ofComponents_steps hall
    have hlead := lead_unsplit hall
    rw [← htext] at hlead
    rw [parent?_of_lead hlead, htext, piecesBefore_steps hsteps hn, Option.map_some]
    exact congrArg some (eq_of_toList (by rw [String.toList_ofList, toList_ofComponents_steps hsteps]))

omit h in
theorem isAbsolute_name : (⟨name⟩ : Path).isAbsolute = false := by
  rw [← Bool.not_eq_true, isAbsolute_iff]
  intro hhead
  exact hn.1 (List.mem_of_head? hhead)

/-- A name read from a clean path stands after its components. -/
theorem join_ofComponents :
    (ofComponents cs).join ⟨name⟩ = ofComponents (cs ++ [.normal name]) := by
  have hname := isAbsolute_name hn
  apply eq_of_toList
  rw [toList_ofComponents h hn]
  rcases h.root_or_steps with ⟨rest, rfl, hrest⟩ | hsteps
  · have htext := toList_ofComponents_root rest
    by_cases hnil : rest = []
    · rw [hnil] at htext ⊢
      rw [toList_join_open hname (.inr (by rw [htext]; rfl)), htext]
      rfl
    · obtain ⟨c, hlast, hc⟩ := getLast?_unsplit_steps hrest hnil
      have hlast' : (ofComponents (.root :: rest)).text.toList.getLast? = some c := by
        rw [htext, List.getLast?_cons, hlast]
        rfl
      rw [toList_join_closed hname hlast' hc, htext, unsplit_append_singleton (by simp),
        List.map_cons, unsplit_cons (by simpa using hnil)]
      rfl
  · have htext := toList_ofComponents_steps hsteps
    by_cases hnil : cs = []
    · rw [hnil] at htext ⊢
      rw [toList_join_open hname (.inl htext), htext]
      rfl
    · obtain ⟨c, hlast, hc⟩ := getLast?_unsplit_steps hsteps hnil
      rw [toList_join_closed hname (by rw [htext, hlast]) hc, htext,
        unsplit_append_singleton (by simpa using hnil)]

/-- Another last name takes the place of the last one. -/
theorem withFileName_ofComponents {name' : String} (hn' : (Component.normal name').IsStep) :
    (ofComponents (cs ++ [.normal name])).withFileName name' =
      ofComponents (cs ++ [.normal name']) := by
  rw [withFileName, fileName?_ofComponents h hn]
  simp only [parent?_ofComponents h hn, Option.getD_some]
  exact join_ofComponents h hn'

end

end BundleGraph.Path
