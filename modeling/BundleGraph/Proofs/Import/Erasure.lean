import BundleGraph.Proofs.Import.Occurrence
import Mathlib.Logic.Relation

/-!
# Declarations about types only

A declaration that is about types only is no reason to load a module.  When `import type` and
`export type { … }` are taken out of a script, at whatever depth they stand, its imports stay what
they were.  An `export type *` is an import like any other `export *`: when it is taken out, its
source is missed, unless something else in the script stands for it.

## Main definitions

* `Without` — a script without one of its trees.
* `Node.IsErased` — the declarations about types that import nothing.
* `allImports_without` — what the imports of a script lose with a tree.
* `erased_unless_star` — when the scan of a script does not change.
-/

namespace BundleGraph.Script

/-- The second trees are the first without one tree, at whatever depth it stands.  What a call is
given stays, but may lose a tree that stands in it. -/
inductive Without (d : Node) : List Node → List Node → Prop where
  | here {ns} : Without d (d :: ns) ns
  | later {n ns ns'} (h : Without d ns ns') : Without d (n :: ns) (n :: ns')
  | inExport {typeOnly source names ds ds' ns} (h : Without d ds ds') :
    Without d (.exportNamed typeOnly source names ds :: ns)
      (.exportNamed typeOnly source names ds' :: ns)
  | inDefault {v v' ns} (h : Without d [v] [v']) :
    Without d (.exportDefault v :: ns) (.exportDefault v' :: ns)
  | inSource {s s' options ns} (h : Without d [s] [s']) :
    Without d (.importCall s options :: ns) (.importCall s' options :: ns)
  | inOptions {s options options' ns} (h : Without d options options')
    (hlength : options'.length = options.length) :
    Without d (.importCall s options :: ns) (.importCall s options' :: ns)
  | inCallee {c c' ts as ns} (h : Without d [c] [c']) :
    Without d (.call c ts as :: ns) (.call c' ts as :: ns)
  | inTypeArguments {c ts ts' as ns} (h : Without d ts ts') (hlength : ts'.length = ts.length) :
    Without d (.call c ts as :: ns) (.call c ts' as :: ns)
  | inArguments {c ts as as' ns} (h : Without d as as') (hlength : as'.length = as.length) :
    Without d (.call c ts as :: ns) (.call c ts as' :: ns)
  | inNode {form ps ps' ns} (h : Without d ps ps') :
    Without d (.node form ps :: ns) (.node form ps' :: ns)

/-- A declaration that is about types only, and no `export type *`. -/
inductive Node.IsErased : Node → Prop where
  | importType (source) : IsErased (.importDecl true source)
  | exportType (source names) : IsErased (.exportNamed true source names [])

/-- The second trees are the first without a declaration that is about types only, and no
`export type *`. -/
def Erases (ns ns' : List Node) : Prop :=
  ∃ d : Node, d.IsErased ∧ Without d ns ns'

/-! ## What imports lose -/

variable {d n m : Node} {ns ns' : List Node} {x l l' : List ImportRecord}

/-- The second records are the first without some that stand together. -/
def Loses (x l l' : List ImportRecord) : Prop :=
  ∃ before after, l = before ++ x ++ after ∧ l' = before ++ after

theorem Loses.surround (h : Loses x l l') (b a : List ImportRecord) :
    Loses x (b ++ l ++ a) (b ++ l' ++ a) := by
  obtain ⟨before, after, rfl, rfl⟩ := h
  exact ⟨b ++ before, after ++ a, by simp, by simp⟩

/-- A name and a string have nothing to lose, and neither is what is left of a tree. -/
theorem Without.not_atom (h : Without d [n] [m]) :
    (∀ s, n ≠ .name s ∧ n ≠ .string s) ∧ ∀ s, m ≠ .name s ∧ m ≠ .string s := by
  cases h with
  | later h => cases h
  | _ => simp

/-- A list of one string has nothing to lose. -/
theorem Without.ne_singleton_string (h : Without d ns ns') (hlength : ns'.length = ns.length)
    (s : String) : ns ≠ [.string s] ∧ ns' ≠ [.string s] := by
  constructor
  · rintro rfl
    obtain ⟨m, rfl⟩ := List.length_eq_one_iff.mp hlength
    exact (h.not_atom.1 s).2 rfl
  · rintro rfl
    obtain ⟨m, rfl⟩ := List.length_eq_one_iff.mp hlength.symm
    exact (h.not_atom.2 s).2 rfl

theorem requireCall_eq_nil {callee : Node} {arguments : List Node}
    (h : ∀ s, callee ≠ .name "require" ∨ arguments ≠ [.string s]) :
    requireCall callee arguments = [] := by
  refine List.eq_nil_iff_forall_not_mem.mpr fun r hr => ?_
  obtain ⟨s, hcallee, harguments, -⟩ := mem_requireCall_iff.mp hr
  exact (h s).elim (· hcallee) (· harguments)

theorem dynamicImport_eq_nil {source : Node} (h : ∀ s, source ≠ .string s) :
    dynamicImport source = [] := by
  refine List.eq_nil_iff_forall_not_mem.mpr fun r hr => ?_
  obtain ⟨s, hsource, -⟩ := mem_dynamicImport_iff.mp hr
  exact h s hsource

/-- With a tree, the imports of a script lose those of the tree. -/
theorem allImports_without (h : Without d ns ns') :
    Loses (imports d) (allImports ns) (allImports ns') := by
  induction h with
  | here => exact ⟨[], _, rfl, rfl⟩
  | later h ih => simpa [allImports] using ih.surround _ []
  | @inExport typeOnly source names ds ds' ns h ih =>
    simpa [allImports, imports] using ih.surround (reExport typeOnly source) (allImports ns)
  | @inDefault v v' ns h ih =>
    simpa [allImports, imports] using ih.surround [] (allImports ns)
  | @inSource s s' options ns h ih =>
    have hs := dynamicImport_eq_nil fun t => (h.not_atom.1 t).2
    have hs' := dynamicImport_eq_nil fun t => (h.not_atom.2 t).2
    simpa [allImports, imports, hs, hs'] using ih.surround [] (allImports options ++ allImports ns)
  | @inOptions s options options' ns h hlength ih =>
    simpa [allImports, imports] using
      ih.surround (dynamicImport s ++ imports s) (allImports ns)
  | @inCallee c c' ts as ns h ih =>
    have hc : requireCall c as = [] :=
      requireCall_eq_nil fun s => .inl (h.not_atom.1 "require").1
    have hc' : requireCall c' as = [] :=
      requireCall_eq_nil fun s => .inl (h.not_atom.2 "require").1
    simpa [allImports, imports, hc, hc'] using
      ih.surround [] (allImports ts ++ allImports as ++ allImports ns)
  | @inTypeArguments c ts ts' as ns h hlength ih =>
    simpa [allImports, imports] using
      ih.surround (requireCall c as ++ imports c) (allImports as ++ allImports ns)
  | @inArguments c ts as as' ns h hlength ih =>
    have ha : requireCall c as = [] :=
      requireCall_eq_nil fun s => .inr (h.ne_singleton_string hlength s).1
    have ha' : requireCall c as' = [] :=
      requireCall_eq_nil fun s => .inr (h.ne_singleton_string hlength s).2
    simpa [allImports, imports, ha, ha'] using
      ih.surround (imports c ++ allImports ts) (allImports ns)
  | @inNode form ps ps' ns h ih =>
    simpa [allImports, imports] using ih.surround [] (allImports ns)

/-! ## What the scan loses -/

theorem imports_of_isErased (h : d.IsErased) : imports d = [] := by
  cases h with
  | importType source => rfl
  | exportType source names =>
    rw [imports, allImports, List.append_nil]
    rfl

theorem Erases.allImports_eq (h : Erases ns ns') : allImports ns' = allImports ns := by
  obtain ⟨d, hd, hwithout⟩ := h
  obtain ⟨before, after, heq, heq'⟩ := allImports_without hwithout
  rw [heq, heq', imports_of_isErased hd, List.append_nil]

theorem allImports_eq_of_erases (h : Relation.ReflTransGen Erases ns ns') :
    allImports ns' = allImports ns := by
  induction h with
  | refl => rfl
  | tail _ h ih => rw [h.allImports_eq, ih]

/-- When declarations about types are taken out of a script, any number of them, its imports are
the same, if they are no `export type *`.  When an `export type *` is taken out, the imports lose
its source, and the scan is the same exactly if something else stands for it: its specifier comes
before, or the next new specifier is its own in another `export … from`. -/
theorem erased_unless_star {contents : String} {kind : ContentKind}
    (hkind : kind.isScript = true) (hparse : parse? (dialectOf kind) contents = some ns) :
    (∀ contents' ns', parse? (dialectOf kind) contents' = some ns' →
        Relation.ReflTransGen Erases ns ns' →
        scanImports? contents' kind = scanImports? contents kind) ∧
      ∀ contents' ns' source newName, parse? (dialectOf kind) contents' = some ns' →
        Without (.exportAll true source newName) ns ns' →
        ∃ before after,
          rawImports? contents kind = some (before ++ [⟨source, .reExport⟩] ++ after) ∧
          rawImports? contents' kind = some (before ++ after) ∧
          (scanImports? contents' kind = scanImports? contents kind ↔
            IsRepeat before after ⟨source, .reExport⟩) := by
  have hraw := rawImports?_of_parse? hkind hparse
  constructor
  · intro contents' ns' hparse' herases
    rw [scanImports?, scanImports?, hraw, rawImports?_of_parse? hkind hparse',
      allImports_eq_of_erases herases]
  · intro contents' ns' source newName hparse' hwithout
    have hraw' := rawImports?_of_parse? hkind hparse'
    obtain ⟨before, after, heq, heq'⟩ := allImports_without hwithout
    rw [heq] at hraw
    rw [heq'] at hraw'
    refine ⟨before, after, hraw, hraw', ?_⟩
    rw [scanImports?, scanImports?, hraw, hraw', Option.map_some, Option.map_some,
      Option.some_inj]
    exact dropRepeats_insert_iff

/-! ## A script with declarations about types -/

/-- Whether trees are the same imports and `export *` of whole modules. -/
def sameSources : List Node → List Node → Bool
  | [], [] => true
  | .importDecl t s :: ns, .importDecl t' s' :: ns' =>
    decide (t = t' ∧ s = s') && sameSources ns ns'
  | .exportAll t s newName :: ns, .exportAll t' s' newName' :: ns' =>
    decide (t = t' ∧ s = s' ∧ newName = newName') && sameSources ns ns'
  | _, _ => false

theorem eq_of_sameSources (h : sameSources ns ns' = true) : ns = ns' := by
  fun_induction sameSources ns ns' with
  | case1 => rfl
  | case2 t s ns t' s' ns' ih =>
    obtain ⟨heq, hrest⟩ := Bool.and_eq_true_iff.mp h
    obtain ⟨rfl, rfl⟩ := of_decide_eq_true heq
    rw [ih hrest]
  | case3 t s newName ns t' s' newName' ns' ih =>
    obtain ⟨heq, hrest⟩ := Bool.and_eq_true_iff.mp h
    obtain ⟨rfl, rfl, rfl⟩ := of_decide_eq_true heq
    rw [ih hrest]
  | case4 => cases h

theorem parse?_eq_of_sameSources {dialect : Dialect} {text : String}
    (h : (parse? dialect text).any (sameSources ns) = true) : parse? dialect text = some ns := by
  obtain ⟨ns', hparse, hsame⟩ := (Option.any_eq_true _ _).mp h
  rw [hparse, eq_of_sameSources hsame]

/-- Two declarations about types and an import. -/
def typed : String :=
  "import type { A } from './a'\nexport type * from './b'\nimport './c'"

/-- Without the import of types, the scan is the same.  Without the `export type *`, its source is
missed. -/
theorem typed_erased_unless_star :
    let trees := [.importDecl true "./a", .exportAll true "./b" none, .importDecl false "./c"]
    ContentKind.ts.isScript = true ∧ parse? (dialectOf .ts) typed = some trees ∧
      (let text := "export type * from './b'\nimport './c'"
        ∃ trees', parse? (dialectOf .ts) text = some trees' ∧
          Relation.ReflTransGen Erases trees trees' ∧
          scanImports? text .ts = scanImports? typed .ts) ∧
      (let text := "import type { A } from './a'\nimport './c'"
        ∃ trees' before after, parse? (dialectOf .ts) text = some trees' ∧
          Without (.exportAll true "./b" none) trees trees' ∧
          rawImports? typed .ts = some (before ++ [⟨"./b", .reExport⟩] ++ after) ∧
          rawImports? text .ts = some (before ++ after) ∧
          (scanImports? text .ts = scanImports? typed .ts ↔
            IsRepeat before after ⟨"./b", .reExport⟩)) := by
  intro trees
  have hparse : parse? (dialectOf .ts) typed = some trees :=
    parse?_eq_of_sameSources (by decide +kernel)
  obtain ⟨herased, hstar⟩ := erased_unless_star rfl hparse
  refine ⟨rfl, hparse, ?_, ?_⟩
  · have hparse' : parse? (dialectOf .ts) "export type * from './b'\nimport './c'" =
        some [.exportAll true "./b" none, .importDecl false "./c"] :=
      parse?_eq_of_sameSources (by decide +kernel)
    have herases : Relation.ReflTransGen Erases trees
        [.exportAll true "./b" none, .importDecl false "./c"] :=
      .single ⟨_, .importType "./a", .here⟩
    exact ⟨_, hparse', herases, herased _ _ hparse' herases⟩
  · have hparse' : parse? (dialectOf .ts) "import type { A } from './a'\nimport './c'" =
        some [.importDecl true "./a", .importDecl false "./c"] :=
      parse?_eq_of_sameSources (by decide +kernel)
    have hwithout : Without (.exportAll true "./b" none) trees
        [.importDecl true "./a", .importDecl false "./c"] :=
      .later .here
    obtain ⟨before, after, hraw, hraw', hiff⟩ := hstar _ _ _ _ hparse' hwithout
    exact ⟨_, before, after, hparse', hwithout, hraw, hraw', hiff⟩

/-- An `export type *` alone is an import, and without it there is none. -/
theorem star_not_erased :
    ∃ trees, parse? (dialectOf .ts) "export type * from './types'" = some trees ∧
      parse? (dialectOf .ts) "" = some [] ∧
      Without (.exportAll true "./types" none) trees [] ∧
      scanImports? "export type * from './types'" .ts = some [⟨"./types", .reExport⟩] ∧
      scanImports? "" .ts = some [] :=
  ⟨[.exportAll true "./types" none], parse?_eq_of_sameSources (by decide +kernel),
    parse?_eq_of_sameSources (by decide +kernel), .here, by decide +kernel, by decide +kernel⟩

end BundleGraph.Script
