import BundleGraph.Graph.Basic
import Mathlib.Data.List.Basic

/-!
# What changes of a graph do

A module that is no entry is put at the end of the nodes.  When all identities of a list are
in the graph, to declare them as entries marks their modules and changes nothing else.  The
counts of a graph do not look at the marks.
-/

namespace BundleGraph.ModuleGraph

theorem contains_iff {g : ModuleGraph} {id : ModuleId} :
    g.contains id = true ↔ id ∈ g.nodes.map Module.id := by
  simp [contains]

/-- The graph with a module at the end of its nodes. -/
def push (g : ModuleGraph) (m : Module) : ModuleGraph :=
  { g with nodes := g.nodes ++ [m] }

theorem add_new {g : ModuleGraph} {m : Module} (he : m.isEntry = false)
    (h : m.id ∉ g.nodes.map Module.id) : g.add m = .ok (g.push m) := by
  have hc : g.contains m.id = false := by
    rw [← Bool.not_eq_true, contains_iff]
    exact h
  simp [add, hc, he, push]

theorem add_taken {g : ModuleGraph} {m : Module} (h : m.id ∈ g.nodes.map Module.id) :
    g.add m = .error (.duplicate m.id) := by
  simp [add, contains_iff.mpr h]

/-- The graph in which the modules of some identities are marked as entries. -/
def marking (g : ModuleGraph) (ids : List ModuleId) : ModuleGraph :=
  { g with nodes := g.nodes.map fun m => if m.id ∈ ids then m.markEntry else m }

@[simp] theorem id_markEntry (m : Module) : m.markEntry.id = m.id := rfl

/-- A marked graph has the modules of the graph in their order, and only marks may differ. -/
theorem nodes_marking (g : ModuleGraph) (ids : List ModuleId) :
    (g.marking ids).nodes =
      g.nodes.map fun m => { m with isEntry := decide (m.id ∈ ids) || m.isEntry } := by
  apply List.map_congr_left
  intro m _
  by_cases hm : m.id ∈ ids <;> simp [hm, Module.markEntry]

theorem marking_nil (g : ModuleGraph) : g.marking [] = g := by
  simp [marking]

theorem marking_cons (g : ModuleGraph) (id : ModuleId) (ids : List ModuleId) :
    (g.markEntry id).marking ids = g.marking (id :: ids) := by
  simp only [marking, markEntry, List.map_map, List.mem_cons, mk.injEq, and_true]
  apply List.map_congr_left
  intro m _
  by_cases hi : m.id = id <;> by_cases hm : m.id ∈ ids <;> simp [hi, hm, Module.markEntry]

theorem ids_markEntry (g : ModuleGraph) (id : ModuleId) :
    (g.markEntry id).nodes.map Module.id = g.nodes.map Module.id := by
  simp only [markEntry, List.map_map]
  apply List.map_congr_left
  intro m _
  simp only [Function.comp_apply]
  split <;> simp

theorem markEntries_of_subset {g : ModuleGraph} {ids : List ModuleId}
    (h : ∀ i ∈ ids, i ∈ g.nodes.map Module.id) : g.markEntries ids = (g.marking ids, .ok ()) := by
  induction ids generalizing g with
  | nil => simp [markEntries, marking_nil]
  | cons i ids ih =>
    have hi : g.contains i = true := contains_iff.mpr (h i List.mem_cons_self)
    rw [markEntries, if_pos hi, ih, marking_cons]
    intro j hj
    rw [ids_markEntry]
    exact h j (List.mem_cons_of_mem i hj)

/-- Marking stops at the first identity that is missing. -/
theorem markEntries_of_missing {g : ModuleGraph} {before later : List ModuleId} {i : ModuleId}
    (h : ∀ j ∈ before, j ∈ g.nodes.map Module.id) (hi : i ∉ g.nodes.map Module.id) :
    g.markEntries (before ++ i :: later) = (g.marking before, .error (.entryMissing i)) := by
  induction before generalizing g with
  | nil =>
    have hc : ¬ g.contains i = true := fun hc => hi (contains_iff.mp hc)
    rw [List.nil_append, markEntries, if_neg hc, marking_nil]
  | cons j before ih =>
    have hj : g.contains j = true := contains_iff.mpr (h j List.mem_cons_self)
    rw [List.cons_append, markEntries, if_pos hj, ih, marking_cons]
    · intro k hk
      rw [ids_markEntry]
      exact h k (List.mem_cons_of_mem j hk)
    · rw [ids_markEntry]
      exact hi

/-- A list without its later repeats has none. -/
theorem nodup_eraseDups (ids : List ModuleId) : ids.eraseDups.Nodup := by
  induction hn : ids.length using Nat.strongRecOn generalizing ids with
  | _ n ih =>
    cases ids with
    | nil => exact .nil
    | cons i ids =>
      have hlen := List.length_filter_le (fun j => !(j == i)) ids
      rw [List.eraseDups_cons, List.nodup_cons]
      refine ⟨by simp, ih _ ?_ _ rfl⟩
      rw [← hn, List.length_cons]
      omega

/-- To drop later repeats and to leave some out may be done in any order. -/
theorem filter_eraseDups (p : ModuleId → Bool) (ids : List ModuleId) :
    ids.eraseDups.filter p = (ids.filter p).eraseDups := by
  induction hn : ids.length using Nat.strongRecOn generalizing ids with
  | _ n ih =>
    cases ids with
    | nil => rfl
    | cons i ids =>
      have hlen := List.length_filter_le (fun j => !(j == i)) ids
      have hrest : (ids.filter fun j => !(j == i)).eraseDups.filter p =
          ((ids.filter fun j => !(j == i)).filter p).eraseDups :=
        ih _ (by rw [← hn, List.length_cons]; omega) _ rfl
      rw [List.eraseDups_cons]
      by_cases hi : p i = true
      · rw [List.filter_cons_of_pos hi, List.filter_cons_of_pos hi, List.eraseDups_cons, hrest,
          List.filter_comm]
      · rw [List.filter_cons_of_neg hi, List.filter_cons_of_neg hi, hrest, List.filter_filter]
        congr 1
        apply List.filter_congr
        intro j _
        by_cases hj : j = i
        · rw [hj]
          simp [hi]
        · simp [hj]

/-- Entries put to a list one after the other are those outside it, later repeats dropped. -/
theorem foldl_withEntry (seen ids : List ModuleId) :
    ids.foldl withEntry seen = seen ++ (ids.filter fun i => i ∉ seen).eraseDups := by
  induction ids generalizing seen with
  | nil => simp
  | cons i ids ih =>
    rw [List.foldl_cons, ih, withEntry]
    by_cases hi : i ∈ seen
    · simp [hi]
    · have hf : (fun j => decide (j ∉ seen ++ [i])) = fun j => !(j == i) && decide (j ∉ seen) := by
        funext j
        by_cases hj : j = i <;> simp [hj]
      have hc : seen.contains i = false := by simpa using hi
      rw [hc, if_neg Bool.false_ne_true, hf, List.filter_cons_of_pos (by simpa using hi),
        List.eraseDups_cons, List.filter_filter, List.append_assoc, List.singleton_append]

theorem setEntryPoints_of_subset {g : ModuleGraph} {ids : List ModuleId}
    (h : ∀ i ∈ ids, i ∈ g.nodes.map Module.id) :
    g.setEntryPoints ids = ({ g.marking ids with entryPoints := ids.eraseDups }, .ok ()) := by
  rw [setEntryPoints, markEntries_of_subset h]
  simp [foldl_withEntry]

/-- When an identity is missing, the modules of those before it stay marked. -/
theorem setEntryPoints_of_missing {g : ModuleGraph} {before later : List ModuleId} {i : ModuleId}
    (h : ∀ j ∈ before, j ∈ g.nodes.map Module.id) (hi : i ∉ g.nodes.map Module.id) :
    g.setEntryPoints (before ++ i :: later) = (g.marking before, .error (.entryMissing i)) := by
  rw [setEntryPoints, markEntries_of_missing h hi]

/-- What does not look at the marks of entries is the same after entries are marked. -/
theorem map_nodes_markEntries {α : Type} {f : Module → α} (hf : ∀ m, f m.markEntry = f m)
    (g : ModuleGraph) (ids : List ModuleId) :
    (g.markEntries ids).1.nodes.map f = g.nodes.map f := by
  induction ids generalizing g with
  | nil => rfl
  | cons i ids ih =>
    rw [markEntries]
    split
    · rw [ih, markEntry, List.map_map]
      apply List.map_congr_left
      intro m _
      by_cases hm : m.id = i <;> simp [hm, hf]
    · rfl

/-- The same holds after entries are declared, also when one of them is missing. -/
theorem map_nodes_setEntryPoints {α : Type} {f : Module → α} (hf : ∀ m, f m.markEntry = f m)
    (g : ModuleGraph) (ids : List ModuleId) :
    (g.setEntryPoints ids).1.nodes.map f = g.nodes.map f := by
  rw [setEntryPoints, ← map_nodes_markEntries hf g ids]
  rcases g.markEntries ids with ⟨g', x⟩
  cases x <;> rfl

/-! ## Counts -/

theorem edgeCount_eq (g : ModuleGraph) :
    g.statistics.edgeCount = (g.nodes.map Module.dependencies).flatten.length :=
  congrArg List.length List.flatMap_def

theorem externalCount_eq (g : ModuleGraph) :
    g.statistics.externalCount = (g.nodes.map Module.isExternal).count true := by
  rw [statistics, ← List.countP_eq_length_filter, List.count, List.countP_map]
  apply List.countP_congr
  intro m _
  simp

theorem edgeCount_push (g : ModuleGraph) (m : Module) :
    (g.push m).statistics.edgeCount = g.statistics.edgeCount + m.dependencies.length := by
  simp [edgeCount_eq, push]

end BundleGraph.ModuleGraph
