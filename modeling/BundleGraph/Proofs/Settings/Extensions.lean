import BundleGraph.Proofs.Json.Entries
import BundleGraph.Settings.Loaders
import Mathlib

/-!
# Spellings of an extension

A map from extensions may spell one extension in several ways.  All of them have the same normal
form, which spells the extension too, and of the entries under one normal form the last counts.

## Main definitions

* `spells` — a key of a map spells an extension.
* `IsNormal` — a key has neither dots in front nor capital letters.
* `Counts` — no later entry of a map spells the extension of an entry.
* `mem_normalLoaders_iff` — the entries that count are those of the map with normal keys.
-/

namespace BundleGraph

variable {α β : Type} {loaders : List (String × α)} {s ext key : String}

namespace Text

theorem toList_asciiLower (s : String) : (asciiLower s).toList = s.toList.map Char.toLower :=
  String.toList_ofList

theorem asciiLower_eq_empty_iff : asciiLower s = "" ↔ s = "" := by
  simp [asciiLower]

theorem toList_dropDots (s : String) : (dropDots s).toList = s.toList.dropWhile (· == '.') :=
  String.toList_ofList

@[simp] theorem asciiLower_asciiLower (s : String) : asciiLower (asciiLower s) = asciiLower s := by
  simp [asciiLower, Function.comp_def]

@[simp] theorem dropDots_dropDots (s : String) : dropDots (dropDots s) = dropDots s := by
  simp [dropDots, List.dropWhile_idempotent]

/-- A small letter is no dot, so that only a dot has a dot as its small letter. -/
theorem toLower_eq_dot_iff {c : Char} : c.toLower = '.' ↔ c = '.' := by
  by_cases hc : c.isUpper = true
  case pos =>
    have halpha : c.isAlpha = true := by simp [Char.isAlpha, hc]
    constructor
    · intro h
      rw [← Char.isLower_toLower_eq_isAlpha, h] at halpha
      cases halpha
    · rintro rfl
      cases halpha
  case neg => rw [Char.toLower_eq_of_not_isUpper hc]

theorem dropDots_asciiLower (s : String) : dropDots (asciiLower s) = asciiLower (dropDots s) := by
  have hdot : ((· == '.') : Char → Bool) ∘ Char.toLower = (· == '.') :=
    funext fun c => by rw [Function.comp, beq_eq_beq, toLower_eq_dot_iff]
  rw [dropDots, toList_asciiLower, List.dropWhile_map, hdot, asciiLower, toList_dropDots]

end Text

/-- A key of a map spells an extension: they are the same but for dots before the key and the case
of letters. -/
def spells (key ext : String) : Bool :=
  Text.sameIgnoringCase (Text.dropDots key) ext

/-- An extension with neither dots in front nor capital letters. -/
structure IsNormal (ext : String) : Prop where
  ne_empty : ext ≠ ""
  no_dot : ext.toList.head? ≠ some '.'
  no_capital : ∀ c ∈ ext.toList, c.isUpper = false

/-- The normal form is its own normal form. -/
@[simp] theorem normalExtension_normalExtension (ext : String) :
    normalExtension (normalExtension ext) = normalExtension ext := by
  rw [normalExtension, normalExtension, Text.dropDots_asciiLower, Text.dropDots_dropDots,
    Text.asciiLower_asciiLower]

/-- A key that is more than dots has a normal form. -/
theorem isNormal_normalExtension (h : (Text.dropDots key).isEmpty = false) :
    IsNormal (normalExtension key) where
  ne_empty := by
    intro hempty
    rw [normalExtension, Text.asciiLower_eq_empty_iff, ← String.isEmpty_iff, h] at hempty
    cases hempty
  no_dot := by
    have hhead := List.head?_dropWhile_not (· == '.') (Text.asciiLower key).toList
    rw [normalExtension, ← Text.dropDots_asciiLower, Text.toList_dropDots]
    intro hdot
    rw [hdot] at hhead
    cases hhead
  no_capital := by
    intro c hc
    rw [normalExtension, Text.toList_asciiLower] at hc
    obtain ⟨d, -, rfl⟩ := List.mem_map.mp hc
    simp

/-- Files have the same built-in kind however their extension is spelled. -/
@[simp] theorem ContentKind.ofExtension?_asciiLower (ext : String) :
    ContentKind.ofExtension? (Text.asciiLower ext) = ContentKind.ofExtension? ext := by
  rw [ofExtension?, ofExtension?, Text.asciiLower_asciiLower]

/-! ## Maps from extensions -/

/-- An entry of a map counts: no later one has the same normal form. -/
def Counts (loaders : List (String × α)) (l : String × α) : Prop :=
  ∃ before after, loaders = before ++ l :: after ∧
    ∀ l' ∈ after, normalExtension l'.1 ≠ normalExtension l.1

theorem Counts.mem {l : String × α} (h : Counts loaders l) : l ∈ loaders := by
  obtain ⟨before, after, rfl, -⟩ := h
  exact List.mem_append_right before List.mem_cons_self

/-- An entry whose normal form no other entry has counts. -/
theorem counts_of_nodup (h : (loaders.map fun l => normalExtension l.1).Nodup) {l : String × α}
    (hl : l ∈ loaders) : Counts loaders l := by
  obtain ⟨before, after, rfl⟩ := List.append_of_mem hl
  refine ⟨before, after, rfl, fun l' hl' heq => ?_⟩
  rw [List.map_append, List.map_cons, List.nodup_append] at h
  exact (List.nodup_cons.mp h.2.1).1 (List.mem_map.mpr ⟨l', hl', heq⟩)

/-- The entries that count are those of the map with normal keys. -/
theorem mem_normalLoaders_iff {e : String × α} :
    e ∈ normalLoaders loaders ↔ ∃ l, Counts loaders l ∧ (normalExtension l.1, l.2) = e := by
  obtain ⟨k, v⟩ := e
  rw [normalLoaders, Json.mem_sortFields_iff]
  constructor
  · rintro ⟨before, after, heq, hafter⟩
    obtain ⟨before, rest, rfl, rfl, hrest⟩ := List.map_eq_append_iff.mp heq
    obtain ⟨l, after, rfl, hl, rfl⟩ := List.map_eq_cons_iff.mp hrest
    obtain ⟨rfl, rfl⟩ := Prod.mk.inj hl
    refine ⟨l, ⟨before, after, rfl, fun l' hl' => ?_⟩, rfl⟩
    exact hafter (normalExtension l'.1, l'.2) (List.mem_map.mpr ⟨l', hl', rfl⟩)
  · rintro ⟨l, ⟨before, after, rfl, hafter⟩, hl⟩
    cases hl
    refine ⟨_, _, by rw [List.map_append, List.map_cons], fun e he => ?_⟩
    obtain ⟨l', hl', rfl⟩ := List.mem_map.mp he
    exact hafter l' hl'

/-- Under the normal form of an extension stands the last entry that spells it. -/
theorem lookup_normalLoaders :
    Json.lookup (Text.asciiLower ext) (normalLoaders loaders) =
      (loaders.reverse.find? fun l => spells l.1 ext).map (·.2) := by
  rw [normalLoaders, Json.lookup_sortFields, Json.lookup, ← List.map_reverse, List.find?_map,
    Option.map_map]
  rfl

theorem increasing_normalLoaders (loaders : List (String × α)) :
    Json.Increasing (normalLoaders loaders) :=
  Json.increasing_sortFields _

/-- Normal keys stay as they are. -/
@[simp] theorem normalLoaders_normalLoaders (loaders : List (String × α)) :
    normalLoaders (normalLoaders loaders) = normalLoaders loaders := by
  have hkeys : (normalLoaders loaders).map (fun l => (normalExtension l.1, l.2)) =
      normalLoaders loaders := by
    refine (List.map_congr_left fun e he => ?_).trans (List.map_id _)
    obtain ⟨l, -, rfl⟩ := mem_normalLoaders_iff.mp he
    rw [normalExtension_normalExtension, id]
  rw [normalLoaders, hkeys, (increasing_normalLoaders loaders).sortFields_eq]

theorem normalLoaders_map (f : α → β) :
    normalLoaders (loaders.map fun l => (l.1, f l.2)) =
      (normalLoaders loaders).map fun l => (l.1, f l.2) := by
  rw [normalLoaders, normalLoaders, ← Json.sortFields_map, List.map_map, List.map_map]
  rfl

end BundleGraph
