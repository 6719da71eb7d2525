import BundleGraph.Proofs.Graph.History

/-!
# The marks of entries

An entry is known twice: by the list of entries and by the mark of its module.  The list is only
replaced as a whole, when a declaration succeeds.  Marks are set one by one and never taken back,
so the two can come apart.

A declaration that fails leaves the marks that it set before the first identity that is missing.
It goes unseen exactly when all of those were set before.  A declaration that succeeds leaves the
marks of entries that it does not name.  So every mark is listed exactly when the last declaration
names all that was marked before it; modules that are added, with the mark or without, change
nothing about this.

## Main definitions

* `ModuleGraph.SameAnswers`, `ModuleGraph.SameButMarks` — two graphs cannot be told apart.
* `ModuleGraph.failed_change_unseen_iff` — when a change that fails goes unseen.
* `ModuleGraph.MarksListed` — every module with the mark is an entry.
* `ModuleGraph.marks_listed_iff` — when this holds after changes that succeed.
-/

namespace BundleGraph.ModuleGraph

variable {g g' : ModuleGraph} {c : Change} {cs : List Change}

/-- Some history leaves the graph. -/
def Reachable (g : ModuleGraph) : Prop :=
  ∃ cs, g = ModuleGraph.empty.after cs

theorem Reachable.coherent (h : g.Reachable) : g.Coherent := by
  obtain ⟨cs, rfl⟩ := h
  exact Coherent.empty.after cs

/-! ## Changes that fail -/

/-- Two graphs can be told apart by the marks of entries only. -/
structure SameButMarks (g g' : ModuleGraph) : Prop where
  contains_eq : ∀ i, g.contains i = g'.contains i
  size_eq : g.size = g'.size
  entryPoints_eq : g.entryPoints = g'.entryPoints
  dependencies_eq : ∀ i, g.dependencies i = g'.dependencies i
  dependents_eq : ∀ i, g.dependents i = g'.dependents i
  statistics_eq : g.statistics = g'.statistics

/-- Two graphs cannot be told apart. -/
structure SameAnswers (g g' : ModuleGraph) : Prop extends SameButMarks g g' where
  module?_eq : ∀ i, g.module? i = g'.module? i
  modules_eq : g.modules = g'.modules

theorem SameAnswers.refl (g : ModuleGraph) : g.SameAnswers g :=
  ⟨⟨fun _ => rfl, rfl, rfl, fun _ => rfl, fun _ => rfl, rfl⟩, fun _ => rfl, rfl⟩

/-- A module is found as before, and has the mark if its identity is among those marked. -/
theorem module?_marking (g : ModuleGraph) (ids : List ModuleId) (i : ModuleId) :
    (g.marking ids).module? i =
      (g.module? i).map fun m => { m with isEntry := decide (i ∈ ids) || m.isEntry } := by
  rw [module?, nodes_marking, List.find?_map, module?]
  apply Option.map_congr
  intro m hm
  have hid : m.id = i := by simpa using List.find?_some hm
  rw [hid]

theorem sameButMarks_marking (g : ModuleGraph) (ids : List ModuleId) :
    (g.marking ids).SameButMarks g where
  contains_eq := by
    intro i
    rw [contains, nodes_marking, List.any_map]
    rfl
  size_eq := by
    rw [size, nodes_marking, List.length_map]
    rfl
  entryPoints_eq := rfl
  dependencies_eq := by
    intro i
    rw [dependencies, dependencies, module?_marking]
    cases g.module? i <;> rfl
  dependents_eq := by
    intro i
    rw [dependents, nodes_marking, List.filter_map, List.map_map]
    rfl
  statistics_eq := by
    rw [statistics, nodes_marking, List.length_map, List.filter_map, List.length_map,
      List.flatMap_map]
    rfl

/-- To mark what has the mark changes nothing. -/
theorem marking_eq_self {ids : List ModuleId}
    (h : ∀ m ∈ g.nodes, m.id ∈ ids → m.isEntry = true) : g.marking ids = g := by
  have hmark : ∀ m ∈ g.nodes, (if m.id ∈ ids then m.markEntry else m) = m := by
    intro m hm
    split
    · rename_i hid
      rw [Module.markEntry, ← h m hm hid]
    · rfl
  rw [marking, List.map_congr_left hmark, List.map_id']

/-- The identities that a change marks as entries before it fails. -/
def Change.marks (g : ModuleGraph) : Change → List ModuleId
  | .add _ => []
  | .declare ids => ids.takeWhile g.contains

/-- A change that fails leaves nothing but marks. -/
theorem apply_of_error {e : GraphError} (h : (g.apply c).2 = .error e) :
    (g.apply c).1 = g.marking (c.marks g) := by
  cases c with
  | add m =>
    rcases g.apply_add m with ⟨-, heq⟩ | ⟨-, heq⟩
    · rw [heq, Change.marks, marking_nil]
    · rw [heq] at h
      cases h
  | declare ids =>
    rcases g.apply_declare ids with ⟨-, heq⟩ | ⟨before, i, later, rfl, hbefore, hi, heq⟩
    · rw [heq] at h
      cases h
    · have hmarks : (before ++ i :: later).takeWhile g.contains = before := by
        rw [List.takeWhile_append_of_pos fun j hj => contains_iff.mpr (hbefore j hj),
          List.takeWhile_cons_of_neg fun hc => hi (contains_iff.mp hc), List.append_nil]
      rw [heq, Change.marks, hmarks]

/-- What a change marks before it fails is in the graph. -/
theorem exists_of_mem_marks {i : ModuleId} (hi : i ∈ c.marks g) : ∃ m, g.module? i = some m := by
  cases c with
  | add m => cases hi
  | declare ids =>
    obtain ⟨m, hm, hid⟩ := List.mem_map.mp (contains_iff.mp (List.mem_takeWhile_imp hi))
    rw [module?, ← Option.isSome_iff_exists, List.find?_isSome]
    exact ⟨m, hm, beq_iff_eq.mpr hid⟩

/-- A change that fails shows in marks only, and goes unseen exactly when all that it marks before
it fails was marked already.  A module that is refused marks nothing. -/
theorem failed_change_unseen_iff (hg : g.Reachable) {e : GraphError}
    (h : (g.apply c).2 = .error e) :
    (g.apply c).1.SameButMarks g ∧
      (∀ i, (g.apply c).1.module? i =
        (g.module? i).map fun m => { m with isEntry := decide (i ∈ c.marks g) || m.isEntry }) ∧
      ((g.apply c).1.SameAnswers g ↔
        ∀ i ∈ c.marks g, ∃ m, g.module? i = some m ∧ m.isEntry = true) := by
  rw [apply_of_error h]
  refine ⟨sameButMarks_marking g _, module?_marking g _, ?_, ?_⟩
  · intro hsame i hi
    obtain ⟨m, hm⟩ := exists_of_mem_marks hi
    refine ⟨m, hm, ?_⟩
    have heq := hsame.module?_eq i
    rw [module?_marking, hm, Option.map_some, decide_eq_true hi, Bool.true_or] at heq
    exact (congrArg Module.isEntry (Option.some.inj heq)).symm
  · intro hmarked
    rw [marking_eq_self]
    · exact .refl g
    · intro m hm hid
      obtain ⟨n, hn, hmark⟩ := hmarked m.id hid
      have hfound := (module?_eq_some_iff hg.coherent.ids_nodup).mpr ⟨hm, rfl⟩
      rw [hfound] at hn
      rw [Option.some.inj hn]
      exact hmark

/-- A module without the mark, alone in its graph. -/
def lone : ModuleGraph :=
  ModuleGraph.empty.after [.add { id := ⟨"/a.js", "file"⟩ }]

/-- A declaration of it and of a missing entry. -/
def halfMissing : Change :=
  .declare [⟨"/a.js", "file"⟩, ⟨"/missing.js", "file"⟩]

/-- A declaration that fails at its second entry shows in the mark of the first. -/
theorem failed_declaration_unseen_iff :
    (lone.apply halfMissing).2 = .error (.entryMissing ⟨"/missing.js", "file"⟩) ∧
      (lone.apply halfMissing).1.SameButMarks lone ∧
      (∀ i, (lone.apply halfMissing).1.module? i = (lone.module? i).map fun m =>
        { m with isEntry := decide (i ∈ halfMissing.marks lone) || m.isEntry }) ∧
      ((lone.apply halfMissing).1.SameAnswers lone ↔
        ∀ i ∈ halfMissing.marks lone, ∃ m, lone.module? i = some m ∧ m.isEntry = true) :=
  have h : (lone.apply halfMissing).2 = .error (.entryMissing ⟨"/missing.js", "file"⟩) := by
    decide +kernel
  ⟨h, failed_change_unseen_iff ⟨_, rfl⟩ h⟩

/-- The mark of a declaration that failed can be seen. -/
theorem failed_declaration_seen :
    lone.Reachable ∧
      (lone.apply halfMissing).2 = .error (.entryMissing ⟨"/missing.js", "file"⟩) ∧
      ¬ (lone.apply halfMissing).1.SameAnswers lone := by
  refine ⟨⟨_, rfl⟩, by decide +kernel, fun hsame => ?_⟩
  have hmodules := hsame.modules_eq
  revert hmodules
  decide +kernel

/-! ## Changes that succeed -/

/-- The changes of a history succeed, each on the graph that those before it leave. -/
def Succeeds (g : ModuleGraph) : List Change → Prop
  | [] => True
  | c :: cs => (g.apply c).2 = .ok () ∧ (g.apply c).1.Succeeds cs

/-- Every module with the mark of an entry is an entry. -/
def MarksListed (g : ModuleGraph) : Prop :=
  ∀ m ∈ g.nodes, m.isEntry = true → m.id ∈ g.entryPoints

theorem succeeds_append {cs' : List Change} :
    g.Succeeds (cs ++ cs') ↔ g.Succeeds cs ∧ (g.after cs).Succeeds cs' := by
  induction cs generalizing g with
  | nil => simp [Succeeds]
  | cons c cs ih => rw [List.cons_append, Succeeds, Succeeds, ih, after_cons, and_assoc]

/-- A new module, with the mark or without, does not change whether marks are listed. -/
theorem marksListed_add {m : Module} (hok : (g.apply (.add m)).2 = .ok ()) :
    (g.apply (.add m)).1.MarksListed ↔ g.MarksListed := by
  rcases g.apply_add m with ⟨-, heq⟩ | ⟨hnew, heq⟩
  · rw [heq] at hok
    cases hok
  · rw [heq]
    constructor
    · intro h n hn hmark
      rcases mem_entries_add.mp (h n (List.mem_append_left _ hn) hmark) with hi | ⟨-, hid⟩
      · exact hi
      · exact absurd (hid ▸ List.mem_map_of_mem hn) hnew
    · intro h n hn hmark
      refine mem_entries_add.mpr ?_
      rcases List.mem_append.mp hn with hn | hn
      · exact .inl (h n hn hmark)
      · rw [List.mem_singleton.mp hn] at hmark ⊢
        exact .inr ⟨hmark, rfl⟩

/-- After a declaration, marks are listed when it names all that were there. -/
theorem marksListed_declare {ids : List ModuleId} (hok : (g.apply (.declare ids)).2 = .ok ()) :
    (g.apply (.declare ids)).1.MarksListed ↔
      ∀ m ∈ g.nodes, m.isEntry = true → m.id ∈ ids := by
  rcases g.apply_declare ids with ⟨-, heq⟩ | ⟨before, i, later, -, -, -, heq⟩
  · rw [heq, MarksListed, nodes_marking]
    simp only [List.forall_mem_map, Bool.or_eq_true, decide_eq_true_eq, List.mem_eraseDups]
    exact forall₂_congr fun m _ =>
      ⟨fun h hmark => h (.inr hmark), fun h hmark => hmark.elim id h⟩
  · rw [heq] at hok
    cases hok

/-- New modules do not change whether marks are listed. -/
theorem marksListed_after (hcs : ∀ ids, .declare ids ∉ cs) (hok : g.Succeeds cs) :
    (g.after cs).MarksListed ↔ g.MarksListed := by
  induction cs generalizing g with
  | nil => rfl
  | cons c cs ih =>
    cases c with
    | add m =>
      rw [after_cons, ih (fun ids h => hcs ids (List.mem_cons_of_mem _ h)) hok.2,
        marksListed_add hok.1]
    | declare ids => exact absurd List.mem_cons_self (hcs ids)

/-- A history has no declaration, or a last one. -/
theorem exists_last_declaration (cs : List Change) :
    (∀ ids, .declare ids ∉ cs) ∨
      ∃ before ids later, cs = before ++ .declare ids :: later ∧ ∀ ids', .declare ids' ∉ later := by
  induction cs with
  | nil => exact .inl fun ids h => nomatch h
  | cons c cs ih =>
    rcases ih with h | ⟨before, ids, later, rfl, hlater⟩
    · cases c with
      | add m => exact .inl fun ids hmem => (List.mem_cons.mp hmem).elim nofun (h ids)
      | declare ids => exact .inr ⟨[], ids, cs, rfl, h⟩
    · exact .inr ⟨c :: before, ids, later, rfl, hlater⟩

/-- After changes that succeed, every module with the mark of an entry is an entry exactly when the
last declaration names all modules that had the mark before it. -/
theorem marks_listed_iff (h : ModuleGraph.empty.Succeeds cs) :
    (ModuleGraph.empty.after cs).MarksListed ↔
      ∀ before ids later, cs = before ++ .declare ids :: later →
        (∀ ids', .declare ids' ∉ later) →
        ∀ m ∈ (ModuleGraph.empty.after before).nodes, m.isEntry = true → m.id ∈ ids := by
  have hlast : ∀ before ids later, cs = before ++ .declare ids :: later →
      (∀ ids', .declare ids' ∉ later) → ((ModuleGraph.empty.after cs).MarksListed ↔
        ∀ m ∈ (ModuleGraph.empty.after before).nodes, m.isEntry = true → m.id ∈ ids) := by
    rintro before ids later rfl hlater
    obtain ⟨-, hdeclare, hok⟩ := succeeds_append.mp h
    rw [after_append, after_cons, marksListed_after hlater hok, marksListed_declare hdeclare]
  constructor
  · intro hlisted before ids later hcs hlater
    exact (hlast before ids later hcs hlater).mp hlisted
  · intro hnamed
    rcases exists_last_declaration cs with hnone | ⟨before, ids, later, hcs, hlater⟩
    · exact (marksListed_after hnone h).mpr fun m hm => nomatch hm
    · exact (hlast before ids later hcs hlater).mpr (hnamed before ids later hcs hlater)

/-- Two modules, of which first one and then the other is declared as the only entry. -/
def redeclared : List Change :=
  [.add { id := ⟨"/a.js", "file"⟩ }, .add { id := ⟨"/b.js", "file"⟩ },
    .declare [⟨"/a.js", "file"⟩], .declare [⟨"/b.js", "file"⟩]]

/-- Whether the mark of the first is listed depends on what the second declaration names. -/
theorem redeclared_marks_listed_iff :
    ModuleGraph.empty.Succeeds redeclared ∧
      ((ModuleGraph.empty.after redeclared).MarksListed ↔
        ∀ before ids later, redeclared = before ++ .declare ids :: later →
          (∀ ids', .declare ids' ∉ later) →
          ∀ m ∈ (ModuleGraph.empty.after before).nodes, m.isEntry = true → m.id ∈ ids) := by
  have h : ModuleGraph.empty.Succeeds redeclared :=
    ⟨by decide +kernel, by decide +kernel, by decide +kernel, by decide +kernel, trivial⟩
  exact ⟨h, marks_listed_iff h⟩

/-- The first module is no entry any more, and has the mark. -/
theorem redeclared_mark_not_listed :
    ModuleGraph.empty.Succeeds redeclared ∧
      ¬ (ModuleGraph.empty.after redeclared).MarksListed := by
  refine ⟨⟨by decide +kernel, by decide +kernel, by decide +kernel, by decide +kernel, trivial⟩, ?_⟩
  rw [MarksListed]
  decide +kernel

end BundleGraph.ModuleGraph
