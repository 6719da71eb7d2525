import BundleGraph.Json.Merge
import BundleGraph.Proofs.Json.Entries

/-!
# What stands in merged values

Objects that are merged have under each key what the upper one laid over the lower one there.
Nothing that is laid over a value changes whether the result is an object, except for the upper
value itself.

## Main definitions

* `Json.Concrete` — no `null` is in a value, and the keys of its objects increase.
* `Json.stack` — a value that may be there, laid over one that may be there.
* `Json.lookup_mergeFields` — entries are merged key by key.
-/

namespace BundleGraph.Json

variable {k : String} {v w a b : Json} {fields upper : List (String × Json)}

/-- A value without `null` in it, in which the keys of every object increase. -/
inductive Concrete : Json → Prop
  | bool (b : Bool) : Concrete (.bool b)
  | num (n : JsonNumber) : Concrete (.num n)
  | str (s : String) : Concrete (.str s)
  | arr {items : List Json} : (∀ v ∈ items, Concrete v) → Concrete (.arr items)
  | obj {fields : List (String × Json)} :
    Increasing fields → (∀ e ∈ fields, Concrete e.2) → Concrete (.obj fields)

/-- The value is an object. -/
def IsObject (v : Json) : Prop :=
  ∃ fields, v = .obj fields

theorem Concrete.increasing (h : (Json.obj fields).Concrete) : Increasing fields := by
  cases h with
  | obj hfields _ => exact hfields

theorem Concrete.of_mem (h : (Json.obj fields).Concrete) {e : String × Json} (he : e ∈ fields) :
    e.2.Concrete := by
  cases h with
  | obj _ hall => exact hall e he

theorem Concrete.of_lookup (h : (Json.obj fields).Concrete) (hk : lookup k fields = some v) :
    v.Concrete :=
  h.of_mem (mem_of_lookup hk)

theorem Concrete.ne_null (h : v.Concrete) : v ≠ .null := by
  rintro rfl
  cases h

theorem concrete_ofFields (h : ∀ e ∈ fields, e.2.Concrete) : (ofFields fields).Concrete := by
  refine .obj (increasing_sortFields fields) fun e he => ?_
  obtain ⟨before, after, rfl, -⟩ := mem_sortFields_iff.mp (show (e.1, e.2) ∈ _ from he)
  exact h _ (by simp)

/-! ## Merging -/

/-- What is no object replaces what is below it. -/
theorem merge_of_not_isObject (h : ¬ w.IsObject) : merge v w = w := by
  cases w with
  | obj fields => exact absurd ⟨fields, rfl⟩ h
  | _ => rw [merge]; simp

/-- What is no object is replaced. -/
theorem merge_not_isObject (h : ¬ v.IsObject) : merge v w = w := by
  cases v with
  | obj fields => exact absurd ⟨fields, rfl⟩ h
  | _ => rw [merge]; simp

theorem merge_obj : merge (.obj fields) (.obj upper) = .obj (mergeFields fields upper) := by
  rw [merge]

/-- The upper value decides whether the result is an object. -/
theorem isObject_merge : (merge v w).IsObject ↔ w.IsObject := by
  by_cases hw : w.IsObject
  · by_cases hv : v.IsObject
    · obtain ⟨fields, rfl⟩ := hv
      obtain ⟨upper, rfl⟩ := hw
      exact iff_of_true ⟨_, merge_obj⟩ ⟨upper, rfl⟩
    · rw [merge_not_isObject hv]
  · rw [merge_of_not_isObject hw]

/-- A value that may be there, laid over one that may be there. -/
def stack : Option Json → Option Json → Option Json
  | lower, none => lower
  | none, some v => some v
  | some old, some v => some (merge old v)

@[simp] theorem stack_none (x : Option Json) : stack x none = x := by
  cases x <;> rfl

@[simp] theorem none_stack (x : Option Json) : stack none x = x := by
  cases x <;> rfl

theorem exists_stack_some (x : Option Json) (v : Json) :
    ∃ w, stack x (some v) = some w ∧ (w.IsObject ↔ v.IsObject) := by
  cases x with
  | none => exact ⟨v, rfl, Iff.rfl⟩
  | some old => exact ⟨merge old v, rfl, isObject_merge⟩

theorem isObject_stack (x : Option Json) : (∀ w ∈ stack x (some v), w.IsObject) ↔ v.IsObject := by
  obtain ⟨w, hw, hobject⟩ := exists_stack_some x v
  rw [hw, ← hobject]
  exact ⟨fun h => h w rfl, fun h u hu => Option.some.inj hu ▸ h⟩

theorem exists_some_stack (v : Json) (y : Option Json) : ∃ w, stack (some v) y = some w := by
  cases y with
  | none => exact ⟨v, rfl⟩
  | some w => exact ⟨merge v w, rfl⟩

theorem stack_of_not_isObject (x : Option Json) (h : ¬ v.IsObject) : stack x (some v) = some v := by
  cases x with
  | none => rfl
  | some old => exact congrArg some (merge_of_not_isObject h)

theorem mergeFields_cons :
    mergeFields fields ((k, v) :: upper) =
      mergeFields (insert k ((stack (lookup k fields) (some v)).getD v) fields) upper := by
  rw [mergeFields]
  cases lookup k fields <;> rfl

/-- Entries are merged key by key. -/
theorem lookup_mergeFields (h : Increasing upper) :
    lookup k (mergeFields fields upper) = stack (lookup k fields) (lookup k upper) := by
  induction upper generalizing fields with
  | nil => rw [mergeFields, lookup_nil, stack_none]
  | cons e upper ih =>
    obtain ⟨l, v⟩ := e
    obtain ⟨hlt, hupper⟩ := List.pairwise_cons.mp h
    rw [mergeFields_cons, ih hupper, lookup_insert, lookup_cons]
    by_cases hk : l = k
    · have hnone : lookup k upper = none :=
        lookup_eq_none_iff.mpr fun e he heq => lt_irrefl l (hk.trans heq.symm ▸ hlt e he)
      obtain ⟨w, hw, -⟩ := exists_stack_some (lookup l fields) v
      rw [if_pos hk, if_pos hk, hnone, stack_none, ← hk, hw, Option.getD_some]
    · rw [if_neg hk, if_neg hk]

theorem Increasing.mergeFields (h : Increasing fields) (upper : List (String × Json)) :
    Increasing (mergeFields fields upper) := by
  induction upper generalizing fields with
  | nil => rwa [Json.mergeFields]
  | cons e upper ih =>
    rw [mergeFields_cons]
    exact ih h.insert

/-- What stands under a key of a merged object comes from below, or was laid over there. -/
theorem Concrete.merge (ha : a.Concrete) (hb : b.Concrete) : (merge a b).Concrete := by
  induction hb generalizing a with
  | bool | num | str =>
    rw [merge_of_not_isObject (by rintro ⟨fields, hfields⟩; cases hfields)]
    constructor
  | arr hitems =>
    rw [merge_of_not_isObject (by rintro ⟨fields, hfields⟩; cases hfields)]
    exact .arr hitems
  | @obj upper hupper hall ih =>
    by_cases hobject : a.IsObject
    · obtain ⟨fields, rfl⟩ := hobject
      have hmerged := ha.increasing.mergeFields upper
      rw [merge_obj]
      refine .obj hmerged fun e he => ?_
      have hlookup := hmerged.lookup_eq_some_iff.mpr (show (e.1, e.2) ∈ _ from he)
      rw [lookup_mergeFields hupper] at hlookup
      cases hu : lookup e.1 upper with
      | none =>
        rw [hu, stack_none] at hlookup
        exact ha.of_lookup hlookup
      | some v =>
        have hv := mem_of_lookup hu
        cases hf : lookup e.1 fields with
        | none =>
          rw [hu, hf] at hlookup
          exact Option.some.inj hlookup ▸ hall _ hv
        | some old =>
          rw [hu, hf] at hlookup
          exact Option.some.inj hlookup ▸ ih _ hv (ha.of_lookup hf)
    · rw [merge_not_isObject hobject]
      exact .obj hupper hall

theorem concrete_stack {x y : Option Json} (hx : ∀ v ∈ x, v.Concrete) (hy : ∀ v ∈ y, v.Concrete) :
    ∀ v ∈ stack x y, v.Concrete := by
  cases y with
  | none => rwa [stack_none]
  | some w =>
    cases x with
    | none => rwa [none_stack]
    | some old =>
      intro v hv
      cases hv
      exact (hx old rfl).merge (hy w rfl)

/-! ## Entries of objects -/

theorem get?_of_not_isObject (h : ¬ v.IsObject) : v.get? k = none := by
  cases v with
  | obj fields => exact absurd ⟨fields, rfl⟩ h
  | _ => rfl

/-- What an object that is laid over a value has under a key. -/
theorem get?_merge (hw : w.IsObject) (hc : w.Concrete) :
    (merge v w).get? k = stack (v.get? k) (w.get? k) := by
  by_cases hv : v.IsObject
  · obtain ⟨fields, rfl⟩ := hv
    obtain ⟨upper, rfl⟩ := hw
    rw [merge_obj]
    exact lookup_mergeFields hc.increasing
  · rw [merge_not_isObject hv, get?_of_not_isObject hv, none_stack]

/-- The same if either of them may be there or not. -/
theorem get?_stack {x y : Option Json} (hy : ∀ v ∈ y, v.Concrete ∧ v.IsObject) (k : String) :
    (stack x y).bind (·.get? k) = stack (x.bind (·.get? k)) (y.bind (·.get? k)) := by
  cases y with
  | none => rw [stack_none, Option.bind_none, stack_none]
  | some v =>
    cases x with
    | none => rw [none_stack, Option.bind_none, none_stack]
    | some w =>
      obtain ⟨hc, ho⟩ := hy v rfl
      exact get?_merge ho hc

theorem concrete_of_get? (h : v.Concrete) : ∀ w ∈ v.get? k, w.Concrete := by
  intro w hw
  cases v with
  | obj fields => exact h.of_lookup hw
  | _ => cases hw

end BundleGraph.Json
