import BundleGraph.Import.Scan
import Mathlib.Data.List.Nodup

/-!
# What the scan of contents gives

The imports of contents are found with repeats, and a specifier is kept where it stands first.

## Main definitions

* `IsRepeat` — a record goes unseen between others.
* `dropRepeats_insert_iff` — when a record may be left out.
* `nodup_scanImports?` — no specifier is reported twice.
-/

namespace BundleGraph

/-- What is kept stood in the list, and was not seen before. -/
theorem mem_dropRepeats {seen : List String} {rs : List ImportRecord} {r : ImportRecord}
    (h : r ∈ dropRepeats seen rs) : r ∈ rs ∧ r.specifier ∉ seen := by
  induction rs generalizing seen with
  | nil => simp [dropRepeats] at h
  | cons a rs ih =>
    rw [dropRepeats] at h
    split at h
    · exact ⟨List.mem_cons_of_mem a (ih h).1, (ih h).2⟩
    · rename_i ha
      rcases List.mem_cons.mp h with rfl | h
      · exact ⟨List.mem_cons_self, by simpa using ha⟩
      · obtain ⟨hr, hs⟩ := ih h
        exact ⟨List.mem_cons_of_mem a hr, fun hc => hs (List.mem_cons_of_mem _ hc)⟩

/-- Of each specifier one record is kept. -/
theorem nodup_dropRepeats (seen : List String) (rs : List ImportRecord) :
    ((dropRepeats seen rs).map ImportRecord.specifier).Nodup := by
  induction rs generalizing seen with
  | nil => simp [dropRepeats]
  | cons a rs ih =>
    rw [dropRepeats]
    split
    · exact ih seen
    · rw [List.map_cons, List.nodup_cons]
      refine ⟨?_, ih _⟩
      intro h
      obtain ⟨r, hr, hs⟩ := List.mem_map.mp h
      exact (mem_dropRepeats hr).2 (by simp [hs])

/-- It does not matter in which order specifiers were seen. -/
theorem dropRepeats_congr {seen seen' : List String} (h : ∀ s, s ∈ seen ↔ s ∈ seen')
    (rs : List ImportRecord) : dropRepeats seen rs = dropRepeats seen' rs := by
  induction rs generalizing seen seen' with
  | nil => rfl
  | cons a rs ih =>
    have hcons : ∀ s, s ∈ a.specifier :: seen ↔ s ∈ a.specifier :: seen' := fun s => by
      rw [List.mem_cons, List.mem_cons, h]
    rw [dropRepeats, dropRepeats, ih h, ih hcons]
    simp only [List.contains_iff_mem, h]

theorem dropRepeats_append (seen : List String) (rs rs' : List ImportRecord) :
    dropRepeats seen (rs ++ rs') =
      dropRepeats seen rs ++ dropRepeats (rs.map ImportRecord.specifier ++ seen) rs' := by
  induction rs generalizing seen with
  | nil => rfl
  | cons a rs ih =>
    rw [List.cons_append, dropRepeats, dropRepeats]
    by_cases ha : a.specifier ∈ seen
    · have hc := List.contains_iff_mem.mpr ha
      rw [if_pos hc, if_pos hc, ih]
      congr 1
      exact dropRepeats_congr (by simp +contextual [ha]) rs'
    · have hc : ¬ seen.contains a.specifier = true := fun hc => ha (List.contains_iff_mem.mp hc)
      rw [if_neg hc, if_neg hc, ih, List.cons_append]
      congr 2
      exact dropRepeats_congr (by simp [or_left_comm]) rs'

/-- The first record that is kept is the first one that is new, and what is kept after it are
other specifiers. -/
theorem dropRepeats_of_find? {seen : List String} {rs : List ImportRecord} {r : ImportRecord}
    (h : rs.find? (fun r => r.specifier ∉ seen) = some r) :
    dropRepeats seen rs = r :: dropRepeats (r.specifier :: seen) rs := by
  induction rs with
  | nil => cases h
  | cons a rs ih =>
    rw [dropRepeats, dropRepeats]
    by_cases ha : a.specifier ∈ seen
    · rw [List.find?_cons_of_neg (by simpa using ha)] at h
      rw [if_pos (List.contains_iff_mem.mpr ha), ih h,
        if_pos (List.contains_iff_mem.mpr (List.mem_cons_of_mem _ ha))]
    · rw [List.find?_cons_of_pos (by simpa using ha)] at h
      cases h
      rw [if_neg fun hc => ha (List.contains_iff_mem.mp hc),
        if_pos (List.contains_iff_mem.mpr List.mem_cons_self)]

/-- Where nothing is new, nothing is kept. -/
theorem dropRepeats_of_find?_none {seen : List String} {rs : List ImportRecord}
    (h : rs.find? (fun r => r.specifier ∉ seen) = none) : dropRepeats seen rs = [] := by
  refine List.eq_nil_iff_forall_not_mem.mpr fun r hr => ?_
  obtain ⟨hmem, hnew⟩ := mem_dropRepeats hr
  exact List.find?_eq_none.mp h r hmem (by simpa using hnew)

/-- A record goes unseen if its specifier stands before it, or the next new specifier after it is
its own, of the same kind. -/
def IsRepeat (before after : List ImportRecord) (r : ImportRecord) : Prop :=
  r.specifier ∈ before.map ImportRecord.specifier ∨
    after.find? (fun r' => r'.specifier ∉ before.map ImportRecord.specifier) = some r

theorem dropRepeats_insert_iff {before after : List ImportRecord} {r : ImportRecord} :
    dropRepeats [] (before ++ after) = dropRepeats [] (before ++ [r] ++ after) ↔
      IsRepeat before after r := by
  rw [List.append_assoc, List.singleton_append, dropRepeats_append, dropRepeats_append,
    List.append_cancel_left_eq, List.append_nil, dropRepeats, IsRepeat]
  by_cases hr : r.specifier ∈ before.map ImportRecord.specifier
  · rw [if_pos (List.contains_iff_mem.mpr hr)]
    exact iff_of_true rfl (.inl hr)
  · rw [if_neg fun hc => hr (List.contains_iff_mem.mp hc), or_iff_right hr]
    constructor
    · intro h
      cases hfind : after.find? fun r' => r'.specifier ∉ before.map ImportRecord.specifier with
      | none =>
        rw [dropRepeats_of_find?_none hfind] at h
        cases h
      | some r' =>
        rw [dropRepeats_of_find? hfind] at h
        exact congrArg some (List.cons.inj h).1
    · exact dropRepeats_of_find?

/-- Of records of one kind, each name is kept once, where it stands first. -/
theorem dropRepeats_map (kind : ImportKind) (seen names : List String) :
    dropRepeats seen (names.map fun s => ⟨s, kind⟩) =
      (names.filter fun s => s ∉ seen).eraseDups.map fun s => ⟨s, kind⟩ := by
  induction names generalizing seen with
  | nil => rfl
  | cons a names ih =>
    rw [List.map_cons, dropRepeats]
    by_cases ha : a ∈ seen
    · rw [if_pos (List.contains_iff_mem.mpr ha), ih, List.filter_cons_of_neg (by simpa using ha)]
    · have hseen : (fun s => decide (s ∉ a :: seen)) =
          fun s => !(s == a) && decide (s ∉ seen) := by
        funext s
        by_cases hs : s = a <;> simp [hs]
      rw [if_neg fun hc => ha (List.contains_iff_mem.mp hc), ih, hseen,
        List.filter_cons_of_pos (by simpa using ha), List.eraseDups_cons, List.map_cons,
        List.filter_filter]

/-- The specifiers of contents are pairwise different. -/
theorem nodup_scanImports? {contents : String} {kind : ContentKind} {rs : List ImportRecord}
    (h : scanImports? contents kind = some rs) : (rs.map ImportRecord.specifier).Nodup := by
  rw [scanImports?, Option.map_eq_some_iff] at h
  obtain ⟨raw, _, rfl⟩ := h
  exact nodup_dropRepeats [] raw

end BundleGraph
