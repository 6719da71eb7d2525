import BundleGraph.Json.Basic
import Mathlib.Data.List.Nodup
import Mathlib.Data.List.Sort
import Mathlib.Data.String.Basic

/-!
# Entries under keys

A list of entries is a map when its keys increase.  Entries that are put in one after the other
make such a list, whatever their order is, and under a key stands what was put in under it last.

## Main definitions

* `Increasing` — the keys of entries increase.
* `lookup_insert` and `lookup_sortFields` — what stands under a key.
* `Increasing.ext` — maps with the same under every key are equal.
-/

namespace BundleGraph.Json

variable {α β : Type} {k l : String} {v w : α} {e : String × α} {fields fields' : List (String × α)}

/-- The key of an entry is smaller. -/
def KeyLt (a b : String × α) : Prop :=
  a.1 < b.1

instance : Std.Irrefl (KeyLt (α := α)) :=
  ⟨fun a => lt_irrefl a.1⟩

instance : Std.Antisymm (KeyLt (α := α)) :=
  ⟨fun _ _ h h' => absurd h' (lt_asymm h)⟩

/-- The keys of entries increase, so that no key stands twice. -/
def Increasing (fields : List (String × α)) : Prop :=
  fields.Pairwise KeyLt

instance : DecidableRel (KeyLt (α := α)) :=
  fun a b => inferInstanceAs (Decidable (a.1 < b.1))

instance (fields : List (String × α)) : Decidable (Increasing fields) :=
  inferInstanceAs (Decidable (fields.Pairwise KeyLt))

/-! ## Looking an entry up -/

theorem lookup_nil : lookup k ([] : List (String × α)) = none := rfl

theorem lookup_cons : lookup k (e :: fields) = if e.1 = k then some e.2 else lookup k fields := by
  by_cases h : e.1 = k
  · rw [lookup, List.find?_cons_of_pos (by simpa using h), if_pos h]
    rfl
  · rw [lookup, List.find?_cons_of_neg (by simpa using h), if_neg h]
    rfl

theorem lookup_append :
    lookup k (fields ++ fields') = (lookup k fields).or (lookup k fields') := by
  rw [lookup, List.find?_append, Option.map_or]
  rfl

theorem mem_of_lookup (h : lookup k fields = some v) : (k, v) ∈ fields := by
  obtain ⟨e, he, rfl⟩ := Option.map_eq_some_iff.mp h
  obtain rfl : e.1 = k := by simpa using List.find?_some he
  exact List.mem_of_find?_eq_some he

theorem lookup_eq_none_iff : lookup k fields = none ↔ ∀ e ∈ fields, e.1 ≠ k := by
  rw [lookup, Option.map_eq_none_iff, List.find?_eq_none]
  simp

/-- An entry whose key has no other value is found. -/
theorem lookup_of_unique (hmem : (k, v) ∈ fields) (hunique : ∀ w, (k, w) ∈ fields → w = v) :
    lookup k fields = some v := by
  cases h : lookup k fields with
  | none => exact absurd rfl (lookup_eq_none_iff.mp h _ hmem)
  | some w => rw [hunique w (mem_of_lookup h)]

theorem lookup_map (f : α → β) :
    lookup k (fields.map fun e => (e.1, f e.2)) = (lookup k fields).map f := by
  induction fields with
  | nil => rfl
  | cons e fields ih =>
    rw [List.map_cons, lookup_cons, lookup_cons, ih]
    by_cases h : e.1 = k <;> simp [h]

/-! ## Putting entries in -/

theorem mem_of_mem_insert (h : e ∈ insert k v fields) : e = (k, v) ∨ e ∈ fields := by
  induction fields with
  | nil => exact .inl (List.mem_singleton.mp h)
  | cons d fields ih =>
    rw [insert] at h
    split at h
    · exact List.mem_cons.mp h
    · split at h
      · exact (List.mem_cons.mp h).imp_right (List.mem_cons_of_mem d)
      · rcases List.mem_cons.mp h with rfl | h
        · exact .inr List.mem_cons_self
        · exact (ih h).imp_right (List.mem_cons_of_mem d)

theorem Increasing.insert (h : Increasing fields) : Increasing (insert k v fields) := by
  induction fields with
  | nil => exact List.pairwise_singleton _ _
  | cons d fields ih =>
    obtain ⟨hd, hfields⟩ := List.pairwise_cons.mp h
    rw [Json.insert]
    split
    case isTrue hlt =>
      refine List.pairwise_cons.mpr ⟨fun e he => ?_, h⟩
      rcases List.mem_cons.mp he with rfl | he
      · exact hlt
      · exact lt_trans hlt (hd e he)
    case isFalse hnlt =>
      split
      case isTrue heq => exact List.pairwise_cons.mpr ⟨fun e he => heq ▸ hd e he, hfields⟩
      case isFalse hne =>
        refine List.pairwise_cons.mpr ⟨fun e he => ?_, ih hfields⟩
        rcases mem_of_mem_insert he with rfl | he
        · exact lt_of_le_of_ne (not_lt.mp hnlt) (Ne.symm hne)
        · exact hd e he

/-- Under the key of the entry that is put in stands its value, and nothing else changes. -/
theorem lookup_insert : lookup k (insert l v fields) = if l = k then some v else lookup k fields := by
  induction fields with
  | nil => exact lookup_cons
  | cons d fields ih =>
    rw [insert]
    split
    · rw [lookup_cons]
    · split
      case isTrue heq =>
        rw [lookup_cons, lookup_cons, heq]
        by_cases h : d.1 = k <;> simp [h]
      case isFalse hne =>
        rw [lookup_cons, ih, lookup_cons]
        by_cases h : d.1 = k
        · rw [if_pos h, if_pos h, if_neg fun hl => hne (hl.trans h.symm)]
        · rw [if_neg h, if_neg h]

/-- Entries put in one after the other stay in the order of their keys. -/
theorem Increasing.foldl_insert {acc : List (String × α)} (h : Increasing acc)
    (fields : List (String × α)) :
    Increasing (fields.foldl (fun acc e => Json.insert e.1 e.2 acc) acc) := by
  induction fields generalizing acc with
  | nil => exact h
  | cons e fields ih => exact ih h.insert

theorem increasing_sortFields (fields : List (String × α)) : Increasing (sortFields fields) :=
  Increasing.foldl_insert List.Pairwise.nil fields

/-- Of the entries put in under a key the last one counts. -/
theorem lookup_foldl_insert (acc fields : List (String × α)) :
    lookup k (fields.foldl (fun acc e => insert e.1 e.2 acc) acc) =
      (lookup k fields.reverse).or (lookup k acc) := by
  induction fields generalizing acc with
  | nil => rfl
  | cons e fields ih =>
    rw [List.foldl_cons, ih, lookup_insert, List.reverse_cons, lookup_append, Option.or_assoc,
      lookup_cons, lookup_nil]
    by_cases h : e.1 = k <;> simp [h]

theorem lookup_sortFields : lookup k (sortFields fields) = lookup k fields.reverse := by
  rw [sortFields, lookup_foldl_insert, lookup_nil, Option.or_none]

/-! ## Maps -/

theorem Increasing.nodup_keys (h : Increasing fields) : (fields.map Prod.fst).Nodup :=
  List.pairwise_map.mpr (h.imp fun hlt => ne_of_lt hlt)

/-- In a map the key of an entry is no greater than those of the entries that do not stand before
it. -/
theorem Increasing.le_of_not_mem {before after : List (String × α)} {d : String × α}
    (h : Increasing (before ++ e :: after)) (hd : d ∈ before ++ e :: after) (hbefore : d ∉ before) :
    e.1 ≤ d.1 := by
  rcases List.mem_cons.mp ((List.mem_append.mp hd).resolve_left hbefore) with rfl | hafter
  · exact le_refl d.1
  · have hrest := (List.pairwise_append.mp h).2.1
    exact le_of_lt ((List.pairwise_cons.mp hrest).1 d hafter)

/-- In a map an entry is found under its key. -/
theorem Increasing.lookup_eq_some_iff (h : Increasing fields) :
    lookup k fields = some v ↔ (k, v) ∈ fields := by
  refine ⟨mem_of_lookup, fun hmem => lookup_of_unique hmem fun w hw => ?_⟩
  exact (Prod.mk.inj (List.inj_on_of_nodup_map h.nodup_keys hw hmem rfl)).2

/-- In a map made of entries stand those after which no other one has their key. -/
theorem mem_sortFields_iff : (k, v) ∈ sortFields fields ↔
    ∃ before after, fields = before ++ (k, v) :: after ∧ ∀ e ∈ after, e.1 ≠ k := by
  rw [← (increasing_sortFields fields).lookup_eq_some_iff, lookup_sortFields]
  constructor
  · intro h
    obtain ⟨e, he, rfl⟩ := Option.map_eq_some_iff.mp h
    obtain ⟨hk, after, before, heq, hafter⟩ := List.find?_eq_some_iff_append.mp he
    obtain rfl : e.1 = k := by simpa using hk
    exact ⟨before.reverse, after.reverse, by simpa using List.reverse_eq_iff.mp heq,
      fun d hd => by simpa using hafter d (List.mem_reverse.mp hd)⟩
  · rintro ⟨before, after, rfl, hafter⟩
    have hnone : lookup k after.reverse = none :=
      lookup_eq_none_iff.mpr fun e he => hafter e (List.mem_reverse.mp he)
    simp [lookup_append, lookup_cons, hnone]

/-- Maps with the same under every key are equal. -/
theorem Increasing.ext (h : Increasing fields) (h' : Increasing fields')
    (heq : ∀ k, lookup k fields = lookup k fields') : fields = fields' := by
  refine List.Pairwise.eq_of_mem_iff h h' fun e => ?_
  rw [← h.lookup_eq_some_iff, ← h'.lookup_eq_some_iff, heq]

/-- A map is put together again from its entries. -/
theorem Increasing.sortFields_eq (h : Increasing fields) : sortFields fields = fields := by
  refine (increasing_sortFields fields).ext h fun k => ?_
  rw [lookup_sortFields]
  cases hk : lookup k fields with
  | none =>
    exact lookup_eq_none_iff.mpr fun e he => lookup_eq_none_iff.mp hk e (List.mem_reverse.mp he)
  | some v =>
    refine lookup_of_unique (List.mem_reverse.mpr (mem_of_lookup hk)) fun w hw => ?_
    have hw := h.lookup_eq_some_iff.mpr (List.mem_reverse.mp hw)
    rw [hk] at hw
    exact (Option.some.inj hw).symm

/-- Values may be changed before or after entries are put in. -/
theorem sortFields_map (f : α → β) :
    sortFields (fields.map fun e => (e.1, f e.2)) =
      (sortFields fields).map fun e => (e.1, f e.2) := by
  have hsorted : Increasing ((sortFields fields).map fun e => (e.1, f e.2)) :=
    List.pairwise_map.mpr (increasing_sortFields fields)
  refine (increasing_sortFields _).ext hsorted fun k => ?_
  rw [lookup_sortFields, ← List.map_reverse, lookup_map, lookup_map, lookup_sortFields]

/-- A list with the keys of a map is a map. -/
theorem Increasing.of_map_fst {values : List (String × β)} (h : Increasing fields)
    (heq : values.map Prod.fst = fields.map Prod.fst) : Increasing values := by
  have hkeys : (fields.map Prod.fst).Pairwise (· < ·) := List.pairwise_map.mpr h
  rw [← heq, List.pairwise_map] at hkeys
  exact hkeys

end BundleGraph.Json
