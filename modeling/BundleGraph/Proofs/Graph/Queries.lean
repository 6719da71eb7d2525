import BundleGraph.Proofs.Graph.Marks

/-!
# Questions to a graph

Edges are kept with the modules that they start from.  Who imports a module is found out by going
through all modules, in whatever order they are held, so what is asked in one direction has to fit
what is asked in the other, and no order may show in an answer.

Modules that are added one after the other are held behind those that were there, without those
that are refused.  With different identities, the order in which they are added decides nothing
but the order in which they are held and in which entries are listed.  Of these, only the second
can be asked for.

## Main definitions

* `ModuleGraph.TwoWay` — imports and importers fit together.
* `ModuleGraph.Agree` — two graphs answer alike, but may list their entries in another order.
* `ModuleGraph.after_add_all` — what different modules that are added leave.
* `ModuleGraph.twoWay_and_orderless` — both hold after every history.
-/

namespace BundleGraph

/-! ## Sorted identities -/

namespace ModuleId

theorem pairwise_sort (ids : List ModuleId) : (sort ids).Pairwise fun a b => a.le b = true := by
  apply List.pairwise_mergeSort
  · intro a b c h h'
    exact le_trans h h'
  · intro a b
    rw [Bool.or_eq_true]
    exact le_total a b

theorem sort_perm (ids : List ModuleId) : (sort ids).Perm ids :=
  List.mergeSort_perm _ _

/-- The order in which identities come does not show when they are sorted. -/
theorem sort_eq_of_perm {ids ids' : List ModuleId} (h : ids.Perm ids') : sort ids = sort ids' := by
  refine List.Perm.eq_of_pairwise ?_ (pairwise_sort ids) (pairwise_sort ids') ?_
  · intro a b _ _ hle hle'
    exact le_antisymm hle hle'
  · exact (sort_perm ids).trans (h.trans (sort_perm ids').symm)

/-- Different identities are sorted so that each comes before those after it. -/
theorem before_of_nodup {ids : List ModuleId} (h : ids.Nodup) : (sort ids).Pairwise Before :=
  ((pairwise_sort ids).and ((sort_perm ids).nodup_iff.mpr h)).imp
    fun ⟨hle, hne⟩ => before_of_le hle hne

end ModuleId

namespace ModuleGraph

variable {g g' : ModuleGraph} {a b : ModuleId} {ms ms' : List Module}

/-! ## Imports and importers -/

/-- Imports and importers fit together: an identity is imported by a module of the graph exactly
when that module is among its importers, which are listed once and in the order of identities. -/
structure TwoWay (g : ModuleGraph) : Prop where
  mem_dependents_iff : ∀ a b, g.contains a = true →
    ∃ ids, g.dependencies a = .ok ids ∧ (b ∈ ids ↔ a ∈ g.dependents b)
  dependents_increasing : ∀ b, (g.dependents b).Pairwise ModuleId.Before

theorem mem_dependents : a ∈ g.dependents b ↔ ∃ m ∈ g.nodes, m.id = a ∧ b ∈ m.dependencyIds := by
  rw [dependents, (ModuleId.sort_perm _).mem_iff, List.mem_map]
  refine exists_congr fun m => ?_
  rw [List.mem_filter, List.contains_iff_mem, and_assoc, and_congr_right_iff]
  exact fun _ => and_comm

theorem twoWay (h : (g.nodes.map Module.id).Nodup) : g.TwoWay where
  mem_dependents_iff := by
    intro a b ha
    obtain ⟨m, hm, rfl⟩ := List.mem_map.mp (contains_iff.mp ha)
    have hfound : g.module? m.id = some m := (module?_eq_some_iff h).mpr ⟨hm, rfl⟩
    refine ⟨m.dependencyIds, by rw [dependencies, hfound], ?_⟩
    rw [mem_dependents]
    constructor
    · exact fun hb => ⟨m, hm, rfl, hb⟩
    · rintro ⟨n, hn, hid, hb⟩
      rw [← eq_of_id_eq h hn hm hid]
      exact hb
  dependents_increasing := by
    intro b
    have hsub : (g.nodes.filter fun m => m.dependencyIds.contains b).Sublist g.nodes :=
      List.filter_sublist
    exact ModuleId.before_of_nodup ((hsub.map Module.id).nodup h)

/-! ## Modules in another order -/

/-- Two graphs answer alike, but may list their entries in another order. -/
structure Agree (g g' : ModuleGraph) : Prop where
  modules_eq : g.modules = g'.modules
  module?_eq : ∀ i, g.module? i = g'.module? i
  contains_eq : ∀ i, g.contains i = g'.contains i
  size_eq : g.size = g'.size
  dependencies_eq : ∀ i, g.dependencies i = g'.dependencies i
  dependents_eq : ∀ i, g.dependents i = g'.dependents i
  statistics_eq : g.statistics = g'.statistics
  entryPoints_perm : g.entryPoints.Perm g'.entryPoints

/-- The order in which modules are held shows in no answer. -/
theorem agree_of_perm (h : (g.nodes.map Module.id).Nodup) (hnodes : g.nodes.Perm g'.nodes)
    (hentries : g.entryPoints.Perm g'.entryPoints) : g.Agree g' where
  modules_eq := modules_eq_of_perm h hnodes
  module?_eq := module?_eq_of_perm h hnodes
  contains_eq := by
    intro i
    rw [Bool.eq_iff_iff, contains_iff, contains_iff]
    exact (hnodes.map _).mem_iff
  size_eq := hnodes.length_eq
  dependencies_eq := by
    intro i
    rw [dependencies, dependencies, module?_eq_of_perm h hnodes]
  dependents_eq := fun _ => ModuleId.sort_eq_of_perm ((hnodes.filter _).map _)
  statistics_eq := by
    rw [statistics_eq_of_modules, statistics_eq_of_modules, modules_eq_of_perm h hnodes,
      hentries.length_eq]
  entryPoints_perm := hentries

theorem Agree.sameAnswers (h : g.Agree g') (hentries : g.entryPoints = g'.entryPoints) :
    g.SameAnswers g' :=
  ⟨⟨h.contains_eq, h.size_eq, hentries, h.dependencies_eq, h.dependents_eq, h.statistics_eq⟩,
    h.module?_eq, h.modules_eq⟩

/-! ## Modules that are added -/

/-- The modules whose identities are not taken. -/
def fresh (g : ModuleGraph) (ms : List Module) : List Module :=
  ms.filter fun m => m.id ∉ g.nodes.map Module.id

/-- Of modules with different identities that are added, those whose identity is not taken are put
at the end, and the entries among them at the end of the entries. -/
theorem after_add_all (h : g.Coherent) (hids : (ms.map Module.id).Nodup) :
    g.after (ms.map Change.add) =
      ⟨g.nodes ++ g.fresh ms,
        g.entryPoints ++ ((g.fresh ms).filter Module.isEntry).map Module.id⟩ := by
  induction ms generalizing g with
  | nil => simp [fresh]
  | cons m ms ih =>
    obtain ⟨hm, hids⟩ := List.nodup_cons.mp hids
    have hstep := h.apply (.add m)
    rw [List.map_cons, after_cons]
    rcases g.apply_add m with ⟨htaken, heq⟩ | ⟨hnew, heq⟩
    · have hfresh : g.fresh (m :: ms) = g.fresh ms := List.filter_cons_of_neg (by simpa using htaken)
      rw [heq, ih h hids, hfresh]
    · have hfresh : g.fresh (m :: ms) = m :: g.fresh ms :=
        List.filter_cons_of_pos (by simpa using hnew)
      -- No other module has the identity of the new one, so the same ones are refused after it.
      have hrest : ∀ es, fresh ⟨g.nodes ++ [m], es⟩ ms = g.fresh ms := by
        intro es
        apply List.filter_congr
        intro n hn
        have hne : n.id ≠ m.id := fun heq => hm (heq ▸ List.mem_map_of_mem hn)
        simp [hne]
      have hentry : m.id ∉ g.entryPoints := fun hi => hnew (h.mem_ids hi)
      rw [heq] at hstep ⊢
      rw [ih hstep hids, hrest, hfresh, List.append_assoc, List.singleton_append]
      cases hmark : m.isEntry with
      | false => simp [hmark]
      | true => simp [hmark, withEntry, hentry]

/-- In whatever order different modules are added, the graphs agree. -/
theorem agree_after_add_all (h : g.Coherent) (hids : (ms.map Module.id).Nodup)
    (hperm : ms.Perm ms') : (g.after (ms.map Change.add)).Agree (g.after (ms'.map Change.add)) := by
  have hids' : (ms'.map Module.id).Nodup := (hperm.map _).nodup_iff.mp hids
  have hfresh : (g.fresh ms).Perm (g.fresh ms') := hperm.filter _
  have hnodup := (h.after (ms.map Change.add)).ids_nodup
  rw [after_add_all h hids] at hnodup ⊢
  rw [after_add_all h hids']
  exact agree_of_perm hnodup (hfresh.append_left _) (((hfresh.filter _).map _).append_left _)

/-- After every history, imports and importers fit together, and the order in which the modules are
held shows in no answer.  Modules with different identities that are added to it are found, unless
their identity was taken; and in whatever order they are added, the graphs agree. -/
theorem twoWay_and_orderless (cs : List Change) (hperm : ms.Perm ms')
    (hids : (ms.map Module.id).Nodup) :
    (ModuleGraph.empty.after cs).TwoWay ∧
      (∀ nodes, nodes.Perm (ModuleGraph.empty.after cs).nodes →
        { ModuleGraph.empty.after cs with nodes }.SameAnswers (ModuleGraph.empty.after cs)) ∧
      (∀ m ∈ ms, (ModuleGraph.empty.after cs).contains m.id = false →
        (ModuleGraph.empty.after (cs ++ ms.map Change.add)).module? m.id = some m) ∧
      (ModuleGraph.empty.after (cs ++ ms.map Change.add)).Agree
        (ModuleGraph.empty.after (cs ++ ms'.map Change.add)) := by
  have hg : (ModuleGraph.empty.after cs).Coherent := Coherent.empty.after cs
  rw [after_append, after_append]
  refine ⟨twoWay hg.ids_nodup, ?_, ?_, agree_after_add_all hg hids hperm⟩
  · intro nodes hnodes
    have hnodup := (hnodes.map Module.id).nodup_iff.mpr hg.ids_nodup
    have hagree : Agree { ModuleGraph.empty.after cs with nodes } (ModuleGraph.empty.after cs) :=
      agree_of_perm hnodup hnodes (.refl _)
    exact hagree.sameAnswers rfl
  · intro m hm hnew
    have hfresh : m ∈ (ModuleGraph.empty.after cs).fresh ms := by
      refine List.mem_filter.mpr ⟨hm, ?_⟩
      rw [decide_eq_true_iff, ← contains_iff, hnew]
      exact Bool.false_ne_true
    rw [module?_eq_some_iff (hg.after _).ids_nodup, after_add_all hg hids]
    exact ⟨List.mem_append_right _ hfresh, rfl⟩

/-- A module that imports itself, and another that imports it twice and a third that is missing. -/
def tangled : List Module :=
  [{ id := ⟨"/a.js", "file"⟩, isEntry := true
     dependencies := [⟨"./a", .static, ⟨"/a.js", "file"⟩⟩] },
    { id := ⟨"/b.js", "file"⟩, isEntry := true
      dependencies := [⟨"./a", .static, ⟨"/a.js", "file"⟩⟩, ⟨"/a.js", .dynamic, ⟨"/a.js", "file"⟩⟩,
        ⟨"./gone", .static, ⟨"/gone.js", "file"⟩⟩] }]

/-- They may be added to a third module in either order. -/
theorem tangled_twoWay_and_orderless :
    let third : List Change := [.add { id := ⟨"/c.js", "file"⟩ }]
    tangled.Perm tangled.reverse ∧ (tangled.map Module.id).Nodup ∧
      (ModuleGraph.empty.after third).TwoWay ∧
      (∀ nodes, nodes.Perm (ModuleGraph.empty.after third).nodes →
        { ModuleGraph.empty.after third with nodes }.SameAnswers (ModuleGraph.empty.after third)) ∧
      (∀ m ∈ tangled, (ModuleGraph.empty.after third).contains m.id = false →
        (ModuleGraph.empty.after (third ++ tangled.map Change.add)).module? m.id = some m) ∧
      (ModuleGraph.empty.after (third ++ tangled.map Change.add)).Agree
        (ModuleGraph.empty.after (third ++ tangled.reverse.map Change.add)) :=
  have hperm : tangled.Perm tangled.reverse := (List.reverse_perm _).symm
  have hids : (tangled.map Module.id).Nodup := by decide
  ⟨hperm, hids, twoWay_and_orderless _ hperm hids⟩

end ModuleGraph

end BundleGraph
