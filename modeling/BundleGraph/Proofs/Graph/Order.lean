import BundleGraph.Graph.Basic
import Mathlib.Data.List.Nodup

/-!
# The order of identities

Identities are ordered by path, and those of one path by namespace.  The order is total, so
that graphs which hold the same modules list them alike, in whatever order they came in.
-/

namespace BundleGraph

namespace ModuleId

theorem le_iff {a b : ModuleId} :
    a.le b = true ↔
      (a.path = b.path ∧ a.space ≤ b.space) ∨ (a.path ≠ b.path ∧ a.path ≤ b.path) := by
  rw [le]
  by_cases h : a.path = b.path <;> simp [h]

theorem le_total (a b : ModuleId) : a.le b = true ∨ b.le a = true := by
  rw [le_iff, le_iff]
  by_cases h : a.path = b.path
  · exact (String.le_total a.space b.space).imp (fun hs => .inl ⟨h, hs⟩) fun hs => .inl ⟨h.symm, hs⟩
  · exact (String.le_total a.path b.path).imp (fun hp => .inr ⟨h, hp⟩)
      fun hp => .inr ⟨fun h' => h h'.symm, hp⟩

theorem le_trans {a b c : ModuleId} (h : a.le b = true) (h' : b.le c = true) :
    a.le c = true := by
  rw [le_iff] at h h' ⊢
  rcases h with ⟨hab, hs⟩ | ⟨hab, hp⟩
  · rw [hab]
    exact h'.imp_left fun hc => ⟨hc.1, String.le_trans hs hc.2⟩
  · rcases h' with ⟨hbc, -⟩ | ⟨hbc, hp'⟩
    · rw [← hbc]
      exact .inr ⟨hab, hp⟩
    · refine .inr ⟨?_, String.le_trans hp hp'⟩
      intro hac
      rw [hac] at hp
      exact hbc (String.le_antisymm hp' hp)

theorem le_antisymm {a b : ModuleId} (h : a.le b = true) (h' : b.le a = true) : a = b := by
  obtain ⟨pa, sa⟩ := a
  obtain ⟨pb, sb⟩ := b
  rw [le_iff] at h h'
  rcases h with ⟨hp, hs⟩ | ⟨hne, hp⟩
  · rcases h' with ⟨_, hs'⟩ | ⟨hne, _⟩
    · rw [mk.injEq]
      exact ⟨hp, String.le_antisymm hs hs'⟩
    · exact absurd hp.symm hne
  · rcases h' with ⟨hp', _⟩ | ⟨_, hp'⟩
    · exact absurd hp'.symm hne
    · exact absurd (String.le_antisymm hp hp') hne

end ModuleId

namespace ModuleGraph

/-- Modules of one identity are one module when identities are used once. -/
theorem eq_of_id_eq {g : ModuleGraph} (h : (g.nodes.map Module.id).Nodup) {m n : Module}
    (hm : m ∈ g.nodes) (hn : n ∈ g.nodes) (hi : m.id = n.id) : m = n :=
  List.inj_on_of_nodup_map h hm hn hi

theorem mem_modules {g : ModuleGraph} {m : Module} : m ∈ g.modules ↔ m ∈ g.nodes :=
  (List.mergeSort_perm _ _).mem_iff

theorem pairwise_modules (g : ModuleGraph) :
    g.modules.Pairwise fun m n => m.id.le n.id = true := by
  apply List.pairwise_mergeSort
  · intro a b c h h'
    exact ModuleId.le_trans h h'
  · intro a b
    rw [Bool.or_eq_true]
    exact ModuleId.le_total a.id b.id

/-- Graphs of the same modules list them alike. -/
theorem modules_eq_of_perm {g g' : ModuleGraph} (hn : (g.nodes.map Module.id).Nodup)
    (h : g.nodes.Perm g'.nodes) : g.modules = g'.modules := by
  refine List.Perm.eq_of_pairwise ?_ g.pairwise_modules g'.pairwise_modules ?_
  · intro m n hm hn' hle hle'
    exact eq_of_id_eq hn (mem_modules.mp hm) (h.mem_iff.mpr (mem_modules.mp hn'))
      (ModuleId.le_antisymm hle hle')
  · exact (List.mergeSort_perm _ _).trans (h.trans (List.mergeSort_perm _ _).symm)

/-- A module is what its identity is looked up as. -/
theorem module?_eq_some_iff {g : ModuleGraph} (h : (g.nodes.map Module.id).Nodup) {i : ModuleId}
    {m : Module} : g.module? i = some m ↔ m ∈ g.nodes ∧ m.id = i := by
  constructor
  · intro hf
    exact ⟨List.mem_of_find?_eq_some hf, by simpa using List.find?_some hf⟩
  · rintro ⟨hm, rfl⟩
    rw [module?]
    cases hf : g.nodes.find? fun n => n.id == m.id with
    | none =>
      have hne := List.find?_eq_none.mp hf m hm
      simp at hne
    | some n =>
      have hn := List.find?_some hf
      rw [eq_of_id_eq h (List.mem_of_find?_eq_some hf) hm (by simpa using hn)]

/-- Graphs of the same modules find the same under an identity. -/
theorem module?_eq_of_perm {g g' : ModuleGraph} (hn : (g.nodes.map Module.id).Nodup)
    (h : g.nodes.Perm g'.nodes) (i : ModuleId) : g.module? i = g'.module? i := by
  have hn' : (g'.nodes.map Module.id).Nodup := (h.map _).nodup_iff.mp hn
  apply Option.ext
  intro m
  rw [module?_eq_some_iff hn, module?_eq_some_iff hn', h.mem_iff]

end ModuleGraph

end BundleGraph
