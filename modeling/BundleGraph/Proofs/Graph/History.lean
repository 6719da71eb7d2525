import BundleGraph.Proofs.Graph.Changes
import BundleGraph.Proofs.Graph.Order
import Mathlib

/-!
# Histories of a graph

A graph comes about by changes that are tried one after the other.  A change may fail: a module
is refused when its identity is taken, and a declaration of entries stops at the first one that is
missing.  Modules may come with the mark of an entry, and entries may be declared again.

Whatever was tried, identities are used once and entries are modules with the mark.  Each change
keeps this, also when it fails half-way, and all that is asked of a graph fits together because
of it.

## Main definitions

* `ModuleGraph.Change`, `ModuleGraph.apply` — a change, and what it does to a graph.
* `ModuleGraph.after` — the graph after a history of changes, failed ones included.
* `ModuleGraph.Coherent` — what every change keeps.
* `ModuleGraph.Consistent` — what is asked of a graph fits together.
* `ModuleGraph.after_consistent` — this holds after every history.
-/

namespace BundleGraph

/-- One identity comes before another: by path, and for one path by namespace. -/
def ModuleId.Before (a b : ModuleId) : Prop :=
  a.path < b.path ∨ (a.path = b.path ∧ a.space < b.space)

theorem ModuleId.before_of_le {a b : ModuleId} (h : a.le b = true) (hne : a ≠ b) :
    a.Before b := by
  have hlt : ∀ {x y : String}, x ≤ y → x ≠ y → x < y := fun hxy hne =>
    Decidable.byContradiction fun hn => hne (String.le_antisymm hxy (String.not_lt.mp hn))
  obtain ⟨pa, sa⟩ := a
  obtain ⟨pb, sb⟩ := b
  rcases le_iff.mp h with ⟨hp, hs⟩ | ⟨hp, hle⟩
  · exact .inr ⟨hp, hlt hs fun heq => hne (congrArg₂ mk hp heq)⟩
  · exact .inl (hlt hle hp)

namespace ModuleGraph

/-- A change that is tried on a graph. -/
inductive Change where
  | add (m : Module)
  | declare (ids : List ModuleId)

/-- The graph after a change was tried, and what came of it.  A refused module leaves the graph
alone. -/
def apply (g : ModuleGraph) : Change → ModuleGraph × Except GraphError Unit
  | .add m =>
    match g.add m with
    | .ok g' => (g', .ok ())
    | .error e => (g, .error e)
  | .declare ids => g.setEntryPoints ids

/-- The graph after changes were tried in order, whether or not they succeeded. -/
def after (g : ModuleGraph) (cs : List Change) : ModuleGraph :=
  cs.foldl (fun g c => (g.apply c).1) g

@[simp] theorem after_nil (g : ModuleGraph) : g.after [] = g := rfl

@[simp] theorem after_cons (g : ModuleGraph) (c : Change) (cs : List Change) :
    g.after (c :: cs) = (g.apply c).1.after cs := rfl

theorem after_append (g : ModuleGraph) (cs cs' : List Change) :
    g.after (cs ++ cs') = (g.after cs).after cs' :=
  List.foldl_append

/-! ## What a change does -/

/-- A module is refused, or put at the end; one with the mark becomes the last entry. -/
theorem apply_add (g : ModuleGraph) (m : Module) :
    (m.id ∈ g.nodes.map Module.id ∧ g.apply (.add m) = (g, .error (.duplicate m.id))) ∨
      (m.id ∉ g.nodes.map Module.id ∧
        g.apply (.add m) =
          (⟨g.nodes ++ [m], if m.isEntry then withEntry g.entryPoints m.id else g.entryPoints⟩,
            .ok ())) := by
  by_cases h : m.id ∈ g.nodes.map Module.id
  · exact .inl ⟨h, by rw [apply, add_taken h]⟩
  · have hc : ¬ g.contains m.id = true := fun hc => h (contains_iff.mp hc)
    exact .inr ⟨h, by rw [apply, add, if_neg hc]⟩

/-- Identities are all in a graph, or one of them is the first that is missing. -/
theorem present_or_missing (g : ModuleGraph) (ids : List ModuleId) :
    (∀ i ∈ ids, i ∈ g.nodes.map Module.id) ∨
      ∃ before i later, ids = before ++ i :: later ∧
        (∀ j ∈ before, j ∈ g.nodes.map Module.id) ∧ i ∉ g.nodes.map Module.id := by
  induction ids with
  | nil => exact .inl fun i hi => nomatch hi
  | cons i ids ih =>
    by_cases hi : i ∈ g.nodes.map Module.id
    · rcases ih with h | ⟨before, j, later, rfl, hbefore, hj⟩
      · exact .inl (List.forall_mem_cons.mpr ⟨hi, h⟩)
      · exact .inr ⟨i :: before, j, later, rfl, List.forall_mem_cons.mpr ⟨hi, hbefore⟩, hj⟩
    · exact .inr ⟨[], i, ids, rfl, fun j hj => (nomatch hj), hi⟩

/-- Entries are declared, or those before the first that is missing are marked. -/
theorem apply_declare (g : ModuleGraph) (ids : List ModuleId) :
    ((∀ i ∈ ids, i ∈ g.nodes.map Module.id) ∧
        g.apply (.declare ids) = ({ g.marking ids with entryPoints := ids.eraseDups }, .ok ())) ∨
      ∃ before i later, ids = before ++ i :: later ∧
        (∀ j ∈ before, j ∈ g.nodes.map Module.id) ∧ i ∉ g.nodes.map Module.id ∧
        g.apply (.declare ids) = (g.marking before, .error (.entryMissing i)) := by
  rcases g.present_or_missing ids with h | ⟨before, i, later, rfl, hbefore, hi⟩
  · exact .inl ⟨h, setEntryPoints_of_subset h⟩
  · exact .inr ⟨before, i, later, rfl, hbefore, hi, setEntryPoints_of_missing hbefore hi⟩

/-- Marks do not change identities. -/
theorem ids_marking (g : ModuleGraph) (ids : List ModuleId) :
    (g.marking ids).nodes.map Module.id = g.nodes.map Module.id := by
  rw [nodes_marking, List.map_map]
  rfl

/-- The entries after a module was put in. -/
theorem mem_entries_add {es : List ModuleId} {m : Module} {i : ModuleId} :
    i ∈ (if m.isEntry then withEntry es m.id else es) ↔
      i ∈ es ∨ (m.isEntry = true ∧ i = m.id) := by
  cases m.isEntry with
  | false => simp
  | true =>
    rw [if_pos rfl, withEntry]
    split
    · rename_i hc
      have hmem : m.id ∈ es := List.contains_iff_mem.mp hc
      simp only [true_and]
      exact ⟨.inl, fun h => h.elim id fun heq => heq ▸ hmem⟩
    · simp

/-- What has a mark keeps it, and the identities get one. -/
theorem exists_marked_marking {g : ModuleGraph} {ids : List ModuleId} {i : ModuleId} {m : Module}
    (hm : m ∈ g.nodes) (hi : m.id = i) (h : i ∈ ids ∨ m.isEntry = true) :
    ∃ n ∈ (g.marking ids).nodes, n.id = i ∧ n.isEntry = true := by
  rw [nodes_marking]
  refine ⟨_, List.mem_map_of_mem hm, hi, ?_⟩
  rw [hi]
  rcases h with h | h <;> simp [h]

/-! ## What every change keeps -/

/-- Identities are used once, and entries are different modules with the mark. -/
structure Coherent (g : ModuleGraph) : Prop where
  ids_nodup : (g.nodes.map Module.id).Nodup
  entryPoints_nodup : g.entryPoints.Nodup
  marked : ∀ i ∈ g.entryPoints, ∃ m ∈ g.nodes, m.id = i ∧ m.isEntry = true

namespace Coherent

variable {g : ModuleGraph}

theorem empty : ModuleGraph.empty.Coherent :=
  ⟨List.nodup_nil, List.nodup_nil, fun _ hi => nomatch hi⟩

/-- Entries are modules. -/
theorem mem_ids (h : g.Coherent) {i : ModuleId} (hi : i ∈ g.entryPoints) :
    i ∈ g.nodes.map Module.id := by
  obtain ⟨m, hm, rfl, -⟩ := h.marked i hi
  exact List.mem_map_of_mem hm

/-- Marks alone do no harm. -/
theorem marking (h : g.Coherent) (ids : List ModuleId) : (g.marking ids).Coherent where
  ids_nodup := by
    rw [ids_marking]
    exact h.ids_nodup
  entryPoints_nodup := h.entryPoints_nodup
  marked := by
    intro i hi
    obtain ⟨m, hm, hid, hmark⟩ := h.marked i hi
    exact exists_marked_marking hm hid (.inr hmark)

/-- A new module does no harm, with the mark or without. -/
theorem push (h : g.Coherent) {m : Module} (hm : m.id ∉ g.nodes.map Module.id) :
    Coherent ⟨g.nodes ++ [m],
      if m.isEntry then withEntry g.entryPoints m.id else g.entryPoints⟩ where
  ids_nodup := by
    rw [List.map_append, List.map_singleton, ← List.concat_eq_append]
    exact List.Nodup.concat hm h.ids_nodup
  entryPoints_nodup := by
    split
    · rw [withEntry]
      split
      · exact h.entryPoints_nodup
      · rename_i hc
        have hnew : m.id ∉ g.entryPoints := fun hi => hc (List.contains_iff_mem.mpr hi)
        have hconcat := List.Nodup.concat hnew h.entryPoints_nodup
        rw [List.concat_eq_append] at hconcat
        exact hconcat
    · exact h.entryPoints_nodup
  marked := by
    intro i hi
    rcases mem_entries_add.mp hi with hi | ⟨hmark, rfl⟩
    · obtain ⟨n, hn, hid⟩ := h.marked i hi
      exact ⟨n, List.mem_append_left _ hn, hid⟩
    · exact ⟨m, List.mem_append_right _ (List.mem_singleton_self m), rfl, hmark⟩

/-- Entries that are declared replace those of before. -/
theorem declared (h : g.Coherent) {ids : List ModuleId}
    (hids : ∀ i ∈ ids, i ∈ g.nodes.map Module.id) :
    Coherent { g.marking ids with entryPoints := ids.eraseDups } where
  ids_nodup := (h.marking ids).ids_nodup
  entryPoints_nodup := nodup_eraseDups ids
  marked := by
    intro i hi
    replace hi : i ∈ ids := List.mem_eraseDups.mp hi
    obtain ⟨m, hm, hid⟩ := List.mem_map.mp (hids i hi)
    exact exists_marked_marking hm hid (.inl hi)

/-- Every change keeps a graph coherent, whether it succeeds or fails. -/
theorem apply (h : g.Coherent) (c : Change) : (g.apply c).1.Coherent := by
  cases c with
  | add m =>
    rcases g.apply_add m with ⟨-, heq⟩ | ⟨hm, heq⟩
    · rw [heq]
      exact h
    · rw [heq]
      exact h.push hm
  | declare ids =>
    rcases g.apply_declare ids with ⟨hids, heq⟩ | ⟨before, i, later, -, -, -, heq⟩
    · rw [heq]
      exact h.declared hids
    · rw [heq]
      exact h.marking before

theorem after (h : g.Coherent) (cs : List Change) : (g.after cs).Coherent := by
  induction cs generalizing g with
  | nil => exact h
  | cons c cs ih => exact ih (h.apply c)

end Coherent

/-! ## What is asked of a graph -/

/-- What is asked of a graph fits together. -/
structure Consistent (g : ModuleGraph) : Prop where
  ids_nodup : (g.nodes.map Module.id).Nodup
  /-- A module is found under its own identity, and under no other. -/
  module?_iff : ∀ i m, g.module? i = some m ↔ m ∈ g.nodes ∧ m.id = i
  entryPoints_nodup : g.entryPoints.Nodup
  /-- Every entry is found, and has the mark. -/
  entry_marked : ∀ i ∈ g.entryPoints, ∃ m, g.module? i = some m ∧ m.isEntry = true
  /-- The modules listed are those that are found. -/
  mem_modules_iff : ∀ m, m ∈ g.modules ↔ g.module? m.id = some m
  /-- They are listed once, in the order of their identities. -/
  modules_increasing : g.modules.Pairwise fun m n => m.id.Before n.id
  length_modules : g.modules.length = g.size
  /-- The counts are those of the modules and the entries listed. -/
  statistics_eq : g.statistics =
    { moduleCount := g.modules.length
      externalCount := g.modules.countP Module.isExternal
      entryCount := g.entryPoints.length
      edgeCount := (g.modules.map fun m => m.dependencies.length).sum }
  entryCount_le : g.statistics.entryCount ≤ g.statistics.moduleCount

/-- Modules that are listed one after the other have identities one before the other. -/
theorem increasing_modules {g : ModuleGraph} (h : (g.nodes.map Module.id).Nodup) :
    g.modules.Pairwise fun m n => m.id.Before n.id := by
  have hperm : (g.modules.map Module.id).Perm (g.nodes.map Module.id) :=
    (List.mergeSort_perm _ _).map _
  have hne : g.modules.Pairwise fun m n => m.id ≠ n.id :=
    List.pairwise_map.mp (hperm.nodup_iff.mpr h)
  exact (g.pairwise_modules.and hne).imp fun ⟨hle, hne⟩ => ModuleId.before_of_le hle hne

/-- The counts do not look at the order in which modules came. -/
theorem statistics_eq_of_modules (g : ModuleGraph) :
    g.statistics =
      { moduleCount := g.modules.length
        externalCount := g.modules.countP Module.isExternal
        entryCount := g.entryPoints.length
        edgeCount := (g.modules.map fun m => m.dependencies.length).sum } := by
  have hperm : g.modules.Perm g.nodes := List.mergeSort_perm _ _
  rw [statistics, GraphStatistics.mk.injEq]
  refine ⟨hperm.length_eq.symm, ?_, rfl, ?_⟩
  · rw [← List.countP_eq_length_filter]
    exact (hperm.countP_eq _).symm
  · rw [List.length_flatMap]
    exact (hperm.map _).sum_nat.symm

theorem Coherent.consistent {g : ModuleGraph} (h : g.Coherent) : g.Consistent where
  ids_nodup := h.ids_nodup
  module?_iff := fun _ _ => module?_eq_some_iff h.ids_nodup
  entryPoints_nodup := h.entryPoints_nodup
  entry_marked := by
    intro i hi
    obtain ⟨m, hm, hid, hmark⟩ := h.marked i hi
    exact ⟨m, (module?_eq_some_iff h.ids_nodup).mpr ⟨hm, hid⟩, hmark⟩
  mem_modules_iff := by
    intro m
    rw [module?_eq_some_iff h.ids_nodup, mem_modules, and_iff_left rfl]
  modules_increasing := increasing_modules h.ids_nodup
  length_modules := (List.mergeSort_perm _ _).length_eq
  statistics_eq := g.statistics_eq_of_modules
  entryCount_le := by
    have hle := (h.entryPoints_nodup.subperm fun _ => h.mem_ids).length_le
    rw [List.length_map] at hle
    exact hle

/-- Whatever changes were tried on a graph that began empty, and whichever of them failed, what is
asked of it fits together. -/
theorem after_consistent (cs : List Change) : (ModuleGraph.empty.after cs).Consistent :=
  (Coherent.empty.after cs).consistent

end ModuleGraph

end BundleGraph
