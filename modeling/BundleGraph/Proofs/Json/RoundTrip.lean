import BundleGraph.Json.Form.Build
import BundleGraph.Proofs.Json.Entries

/-!
# Values read back from their JSON forms

A value is read back from its form, and what is read of any form is read again from its own.  A
record is read from an array or from an object: from an array its fields are found by their place,
from an object by their names, wherever they stand and whatever else the object holds.

## Main definitions

* `Json.Ordered` — the keys of all objects in a value increase.
* `LawfulForm` — a type whose values are read back from their forms.
* `slots_entriesOf` — the fields of a record are found in the object of those that have values.
* `slots_ofFields_of_perm` — they are found alike in an array and in an object.
* `FormLaws` — what can be said of the forms of all types that have one, and `formLaws`.
-/

namespace BundleGraph

/-- A value in which the keys of every object increase. -/
inductive Json.Ordered : Json → Prop
  | null : Ordered .null
  | bool (b : Bool) : Ordered (.bool b)
  | num (n : JsonNumber) : Ordered (.num n)
  | str (s : String) : Ordered (.str s)
  | arr {items : List Json} : (∀ v ∈ items, Ordered v) → Ordered (.arr items)
  | obj {fields : List (String × Json)} :
    Json.Increasing fields → (∀ e ∈ fields, Ordered e.2) → Ordered (.obj fields)

namespace JsonForm

variable {α β : Type} {names : List String} {fields : List (String × Json)}

/-- Types whose values are read back from their forms. -/
class LawfulForm (α : Type) [JsonForm α] : Prop where
  ofJson?_toJson : ∀ a : α, ofJson? (toJson a) = some a

open LawfulForm (ofJson?_toJson)

/-! ## Plain values -/

instance : LawfulForm String := ⟨fun _ => rfl⟩

instance : LawfulForm Bool := ⟨fun _ => rfl⟩

instance : LawfulForm Nat := ⟨fun n => if_pos (Int.natCast_nonneg n)⟩

instance : LawfulForm Path := ⟨fun _ => rfl⟩

instance : LawfulForm Json := ⟨fun _ => rfl⟩

/-- All members have values if each has one. -/
theorem allOf_map {f : α → Option β} {g : β → α} (h : ∀ b, f (g b) = some b) (bs : List β) :
    allOf f (bs.map g) = some bs := by
  induction bs with
  | nil => rfl
  | cons b bs ih => rw [List.map_cons, allOf, h, ih]

instance [JsonForm α] [LawfulForm α] : LawfulForm (List α) :=
  ⟨fun as => allOf_map ofJson?_toJson as⟩

/-- A table is read back if its entries are a map. -/
theorem Table.ofJson?_toJson [JsonForm α] [LawfulForm α] {entries : List (String × α)}
    (h : Json.Increasing entries) : ofJson? (toJson (Table.mk entries)) = some (Table.mk entries) := by
  have hmap : Json.Increasing (entries.map fun e => (e.1, toJson e.2)) :=
    h.of_map_fst (by rw [List.map_map]; rfl)
  have hread : allOf (fun e => (ofJson? e.2).map (e.1, ·)) (entries.map fun e => (e.1, toJson e.2)) =
      some entries :=
    allOf_map (fun e => by rw [LawfulForm.ofJson?_toJson]; rfl) entries
  simp only [toJson, Json.ofFields, hmap.sortFields_eq, ofJson?, hread]
  rfl

theorem map_fst_of_allOf {f : α → Option β} {as : List (String × α)} {bs : List (String × β)}
    (h : allOf (fun e => (f e.2).map (e.1, ·)) as = some bs) :
    bs.map Prod.fst = as.map Prod.fst := by
  induction as generalizing bs with
  | nil => cases h; rfl
  | cons a as ih =>
    rw [allOf] at h
    split at h
    · rename_i b bs' hb hbs
      cases h
      obtain ⟨c, -, rfl⟩ := Option.map_eq_some_iff.mp hb
      rw [List.map_cons, List.map_cons, ih hbs]
    · cases h

/-- What is read as a table from an ordered value is a map. -/
theorem Table.increasing_of_ofJson? [JsonForm α] {v : Json} {t : Table α} (hv : v.Ordered)
    (h : ofJson? v = some t) : Json.Increasing t.entries := by
  cases hv with
  | obj hfields _ =>
    obtain ⟨entries, hentries, rfl⟩ := Option.map_eq_some_iff.mp h
    exact hfields.of_map_fst (map_fst_of_allOf hentries)
  | null | bool | num | str | arr => cases h

/-! ## Fields -/

/-- How a field is found that an object has or leaves out. -/
def Slot.ofEntry : Option Json → Slot
  | some v => .given v
  | none => .absent

theorem eq_of_mem_zip {values : List α} {n : String} {a b : α} (hnames : names.Nodup)
    (hlength : values.length = names.length) (ha : (n, a) ∈ names.zip values)
    (hb : (n, b) ∈ names.zip values) : a = b := by
  have hnodup : ((names.zip values).map Prod.fst).Nodup := by
    rwa [List.map_fst_zip hlength.ge]
  exact (Prod.mk.inj (List.inj_on_of_nodup_map hnodup ha hb rfl)).2

theorem slots_obj : slots names (.obj fields) =
    some (names.map fun n => Slot.ofEntry (Json.lookup n fields)) := by
  rw [slots]
  exact congrArg some (List.map_congr_left fun n _ => by cases Json.lookup n fields <;> rfl)

/-- The fields of a record are found if an object has under each name the one value of the field,
or no value. -/
theorem slots_ofFields {values : List (Option Json)} (hlength : values.length = names.length)
    (h : ∀ n o, (n, o) ∈ names.zip values → ∀ v, (n, v) ∈ fields ↔ o = some v) :
    slots names (.ofFields fields) = some (values.map Slot.ofEntry) := by
  have hlookup : ∀ e ∈ names.zip values, Json.lookup e.1 (Json.sortFields fields) = e.2 := by
    rintro ⟨n, o⟩ hmem
    rw [Json.lookup_sortFields]
    cases o with
    | some v =>
      refine Json.lookup_of_unique (List.mem_reverse.mpr ((h n _ hmem v).mpr rfl)) fun w hw => ?_
      exact (Option.some.inj ((h n _ hmem w).mp (List.mem_reverse.mp hw))).symm
    | none =>
      refine Json.lookup_eq_none_iff.mpr ?_
      rintro ⟨n', v⟩ hv rfl
      cases (h _ _ hmem v).mp (List.mem_reverse.mp hv)
  have hnames : names = (names.zip values).map Prod.fst := (List.map_fst_zip hlength.ge).symm
  have hvalues : values = (names.zip values).map Prod.snd := (List.map_snd_zip hlength.le).symm
  rw [Json.ofFields, slots_obj]
  conv_lhs => rw [hnames, List.map_map]
  conv_rhs => rw [hvalues, List.map_map]
  exact congrArg some (List.map_congr_left fun e he => congrArg Slot.ofEntry (hlookup e he))

/-- The entries of the fields that have values. -/
def entriesOf (names : List String) (values : List (Option Json)) : List (String × Json) :=
  (names.zip values).filterMap fun e => e.2.map (e.1, ·)

/-- The fields of a record are found in the object of those that have values. -/
theorem slots_entriesOf (names : List String) (values : List (Option Json)) (hnames : names.Nodup)
    (hlength : values.length = names.length) :
    slots names (.ofFields (entriesOf names values)) = some (values.map Slot.ofEntry) := by
  refine slots_ofFields hlength fun n o hmem v => ?_
  rw [entriesOf, List.mem_filterMap]
  constructor
  · rintro ⟨⟨n', o'⟩, hmem', heq⟩
    obtain ⟨v', rfl, heq⟩ := Option.map_eq_some_iff.mp heq
    cases heq
    exact eq_of_mem_zip hnames hlength hmem hmem'
  · rintro rfl
    exact ⟨_, hmem, rfl⟩

/-- The fields of a record are found alike in an array and in an object that has them in any order
and among others. -/
theorem slots_ofFields_of_perm (hnames : names.Nodup) {items : List Json}
    (hlength : items.length = names.length) {others : List (String × Json)}
    (hothers : ∀ e ∈ others, e.1 ∉ names) (hperm : fields.Perm (names.zip items ++ others)) :
    slots names (.ofFields fields) = slots names (.arr items) := by
  have harray : slots names (.arr items) = some ((items.map some).map Slot.ofEntry) := by
    rw [slots, if_pos hlength.le, hlength, Nat.sub_self, List.replicate_zero, List.append_nil,
      List.map_map]
    rfl
  rw [harray]
  refine slots_ofFields (by rw [List.length_map, hlength]) fun n o hmem v => ?_
  rw [List.zip_map_right, List.mem_map] at hmem
  obtain ⟨⟨n', w⟩, hmem, heq⟩ := hmem
  cases heq
  rw [hperm.mem_iff, List.mem_append]
  constructor
  · rintro (hv | hv)
    · exact congrArg some (eq_of_mem_zip hnames hlength hmem hv)
    · exact absurd (List.of_mem_zip hmem).1 (hothers _ hv)
  · rintro heq
    cases heq
    exact .inl hmem

/-- What is found of a record is part of its form. -/
theorem ordered_of_slots {v w : Json} {ss : List Slot} (hv : v.Ordered)
    (h : slots names v = some ss) (hw : .given w ∈ ss) : w.Ordered := by
  cases hv with
  | obj _ hfields =>
    rw [slots_obj] at h
    cases h
    obtain ⟨n, -, hn⟩ := List.mem_map.mp hw
    cases hlookup : Json.lookup n _ with
    | some w' =>
      rw [hlookup] at hn
      cases hn
      exact hfields _ (Json.mem_of_lookup hlookup)
    | none =>
      rw [hlookup] at hn
      cases hn
  | arr hitems =>
    rw [slots] at h
    split at h
    · cases h
      rcases List.mem_append.mp hw with hw | hw
      · obtain ⟨w', hw', heq⟩ := List.mem_map.mp hw
        cases heq
        exact hitems w hw'
      · cases (List.mem_replicate.mp hw).2
    · cases h
  | null | bool | num | str => cases h

variable [JsonForm α] [LawfulForm α]

theorem requiredField_toJson (a : α) : requiredField (.given (toJson a)) = some a :=
  ofJson?_toJson a

theorem defaultedField_toJson (d a : α) : defaultedField d (.given (toJson a)) = some a :=
  ofJson?_toJson a

theorem nullable_toJson {a : α} (h : toJson a ≠ .null) : nullable (toJson a) = some (some a) := by
  rw [nullable, ofJson?_toJson]
  · rfl
  · exact h

/-- A field that may be `null` is read back unless its value has that form. -/
theorem optionalField_ofOption {o : Option α} (h : ∀ a ∈ o, toJson a ≠ .null) :
    optionalField (.given (.ofOption toJson o)) = some o := by
  cases o with
  | none => rfl
  | some a => exact nullable_toJson (h a rfl)

/-- Where any data may stand, `null` is read as no data. -/
theorem optionalField_ofOption_json (o : Option Json) :
    optionalField (.given (.ofOption toJson o)) = some (o.filter fun v => decide (v ≠ .null)) := by
  cases o with
  | none => rfl
  | some v =>
    by_cases hv : v = .null
    · rw [hv]
      rfl
    · rw [Option.filter_some_pos (by simpa using hv)]
      exact nullable_toJson hv

theorem filter_of_optionalField {slot : Slot} {o : Option Json} (h : optionalField slot = some o) :
    (o.filter fun v => decide (v ≠ .null)) = o := by
  cases slot with
  | given v =>
    obtain rfl := Option.some.inj (h.symm.trans (optionalField_ofOption_json (some v)))
    by_cases hv : v = .null <;> simp [hv]
  | absent => cases h; rfl
  | short => cases h

/-- A field that is left out when it has no value is read back. -/
theorem omissibleField_ofEntry (h : ∀ a : α, toJson a ≠ .null) (o : Option α) :
    omissibleField (.ofEntry (o.map toJson)) = some o := by
  cases o with
  | none => rfl
  | some a => exact nullable_toJson (h a)

end JsonForm

/-! ## Records -/

open JsonForm LawfulForm

instance : LawfulForm ContentKind where
  ofJson?_toJson k := by cases k <;> rfl

instance : LawfulForm ImportKind where
  ofJson?_toJson k := by cases k <;> rfl

instance : LawfulForm OutputFormat where
  ofJson?_toJson f := by cases f <;> rfl

instance : LawfulForm Platform where
  ofJson?_toJson p := by cases p <;> rfl

instance : LawfulForm ModuleId where
  ofJson?_toJson id := by
    have h : slots ["path", "namespace"] (toJson id) = some [.given (toJson id.path),
        .given (toJson id.space)] :=
      slots_entriesOf _ [some _, some _] (by decide) rfl
    simp only [ofJson?, h, requiredField_toJson]
    rfl

instance : LawfulForm ImportRecord where
  ofJson?_toJson r := by
    have h : slots ["specifier", "kind"] (toJson r) = some [.given (toJson r.specifier),
        .given (toJson r.kind)] :=
      slots_entriesOf _ [some _, some _] (by decide) rfl
    simp only [ofJson?, h, requiredField_toJson]
    rfl

instance : LawfulForm Dependency where
  ofJson?_toJson d := by
    have h : slots ["specifier", "kind", "resolved"] (toJson d) = some [.given (toJson d.specifier),
        .given (toJson d.kind), .given (toJson d.resolved)] :=
      slots_entriesOf _ [some _, some _, some _] (by decide) rfl
    simp only [ofJson?, h, requiredField_toJson]
    rfl

instance : LawfulForm GraphStatistics where
  ofJson?_toJson s := by
    have h : slots ["module_count", "external_count", "entry_count", "edge_count"] (toJson s) =
        some [.given (toJson s.moduleCount), .given (toJson s.externalCount),
          .given (toJson s.entryCount), .given (toJson s.edgeCount)] :=
      slots_entriesOf _ [some _, some _, some _, some _] (by decide) rfl
    simp only [ofJson?, h, requiredField_toJson]
    rfl

instance : LawfulForm BuildStats where
  ofJson?_toJson s := by
    have h : slots ["modules", "resolve_requests", "resolves", "loads"] (toJson s) =
        some [.given (toJson s.modules), .given (toJson s.resolveRequests),
          .given (toJson s.resolves), .given (toJson s.loads)] :=
      slots_entriesOf _ [some _, some _, some _, some _] (by decide) rfl
    simp only [ofJson?, h, requiredField_toJson]
    rfl

/-- The module without attached data that is `null`. -/
def Module.withoutNull (m : Module) : Module :=
  { m with pluginData := m.pluginData.filter fun v => decide (v ≠ .null) }

theorem Module.ofJson?_toJson (m : Module) : ofJson? (toJson m) = some m.withoutNull := by
  have h : slots ["id", "contents", "kind", "dependencies", "is_entry", "is_external", "loaded_by",
      "plugin_data"] (toJson m) = some [.given (toJson m.id), .given (toJson m.contents),
        .given (toJson m.kind), .given (toJson m.dependencies), .given (toJson m.isEntry),
        .given (toJson m.isExternal), .given (.ofOption toJson m.loadedBy),
        .given (.ofOption toJson m.pluginData)] :=
    slots_entriesOf _
      [some _, some _, some _, some _, some _, some _, some _, some _] (by decide) rfl
  have hloadedBy := optionalField_ofOption (o := m.loadedBy) fun _ _ => nofun
  simp only [ofJson?, h, requiredField_toJson, hloadedBy, optionalField_ofOption_json]
  rfl

/-- Attached data that is read is not `null`. -/
theorem Module.withoutNull_of_ofJson? {v : Json} {m : Module} (h : ofJson? v = some m) :
    m.withoutNull = m := by
  simp only [ofJson?] at h
  split at h
  · simp only [Option.bind_eq_bind, Option.bind_eq_some_iff] at h
    obtain ⟨id, -, contents, -, kind, -, dependencies, -, isEntry, -, isExternal, -, loadedBy, -,
      pluginData, hdata, heq⟩ := h
    cases heq
    exact congrArg (Module.mk id contents kind dependencies isEntry isExternal loadedBy)
      (filter_of_optionalField hdata)
  · cases h

theorem Settings.ofJson?_toJson {s : Settings} (hloaders : Json.Increasing s.loaders) :
    ofJson? (toJson s) = some s := by
  have h : slots Settings.names (toJson s) = some [.given (toJson s.entries),
      .given (toJson s.bundle), .ofEntry (s.outfile.map toJson), .ofEntry (s.outdir.map toJson),
      .given (toJson s.format), .given (toJson s.platform), .given (toJson s.external),
      .given (toJson (Table.mk s.loaders)), .ofEntry (s.cwd.map toJson),
      .given (toJson s.maxModules), .ofEntry (s.logLevel.map toJson)] := by
    refine Eq.trans ?_ (slots_entriesOf Settings.names
      [some _, some _, s.outfile.map toJson, s.outdir.map toJson, some _, some _, some _, some _,
        s.cwd.map toJson, some _, s.logLevel.map toJson] (by decide) rfl)
    -- The form is put together from the entries that are there, in the order of the names.
    congr 2
    simp only [toJson]
    cases s.outfile <;> cases s.outdir <;> cases s.cwd <;> cases s.logLevel <;> rfl
  have htable : defaultedField (Table.mk []) (.given (toJson (Table.mk s.loaders))) =
      some (Table.mk s.loaders) := Table.ofJson?_toJson hloaders
  simp only [ofJson?, h, defaultedField_toJson, htable]
  rw [omissibleField_ofEntry, omissibleField_ofEntry, omissibleField_ofEntry,
    omissibleField_ofEntry]
  · rfl
  all_goals exact fun _ => nofun

/-- Loaders that are read from an ordered value are a map. -/
theorem Settings.increasing_of_ofJson? {v : Json} {s : Settings} (hv : v.Ordered)
    (h : ofJson? v = some s) : Json.Increasing s.loaders := by
  simp only [ofJson?] at h
  split at h
  · rename_i ss entries bundle outfile outdir format platform external loaders _ _ _ hslots
    simp only [Option.bind_eq_bind, Option.bind_eq_some_iff] at h
    obtain ⟨_, -, _, -, _, -, _, -, _, -, _, -, _, -, table, htable, _, -, _, -, _, -, heq⟩ := h
    cases heq
    cases loaders with
    | given w => exact Table.increasing_of_ofJson? (ordered_of_slots hv hslots (by simp)) htable
    | absent | short => cases htable; exact List.Pairwise.nil
  · cases h

/-! ## Round trips -/

/-- Every value that can arise is read back from its form as what the form keeps of it; and what is
read of any form is read again from its own. -/
structure RoundTrips (α : Type) [JsonForm α] (arises : α → Prop) (kept : α → α) : Prop where
  read_written : ∀ a : α, arises a → ofJson? (toJson a) = some (kept a)
  written_read : ∀ (v : Json) (a : α), v.Ordered → ofJson? v = some a → ofJson? (toJson a) = some a

/-- Nothing is lost in the forms of a type. -/
def Lossless (α : Type) [JsonForm α] : Prop :=
  RoundTrips α (fun _ => True) id

theorem lossless (α : Type) [JsonForm α] [LawfulForm α] : Lossless α where
  read_written a _ := LawfulForm.ofJson?_toJson a
  written_read _ a _ _ := LawfulForm.ofJson?_toJson a

/-- A record is read alike from the array of its fields, in the order of the names, and from an
object that has them in any order and others among them. -/
def ReadsByName (α : Type) [JsonForm α] (names : List String) : Prop :=
  ∀ (items : List Json) (others fields : List (String × Json)), items.length = names.length →
    (∀ e ∈ others, e.1 ∉ names) → fields.Perm (names.zip items ++ others) →
      (ofJson? (.arr items) : Option α) = ofJson? (.ofFields fields)

/-- It is so if nothing but the fields under the names is read. -/
theorem readsByName {α : Type} [JsonForm α] {names : List String} (hnames : names.Nodup)
    (hread : ∀ {v v' : Json}, slots names v = slots names v' →
      (ofJson? v : Option α) = ofJson? v') : ReadsByName α names :=
  fun _ _ _ hlength hothers hperm =>
    hread (slots_ofFields_of_perm hnames hlength hothers hperm).symm

/-- What can be said of the JSON forms of the types that have one. -/
structure FormLaws : Prop where
  contentKind : Lossless ContentKind
  importKind : Lossless ImportKind
  outputFormat : Lossless OutputFormat
  platform : Lossless Platform
  moduleId : Lossless ModuleId ∧ ReadsByName ModuleId ["path", "namespace"]
  importRecord : Lossless ImportRecord ∧ ReadsByName ImportRecord ["specifier", "kind"]
  dependency : Lossless Dependency ∧ ReadsByName Dependency ["specifier", "kind", "resolved"]
  graphStatistics : Lossless GraphStatistics ∧ ReadsByName GraphStatistics
    ["module_count", "external_count", "entry_count", "edge_count"]
  buildStats : Lossless BuildStats ∧ ReadsByName BuildStats
    ["modules", "resolve_requests", "resolves", "loads"]
  /-- Only attached data that is `null` comes back as none. -/
  module : RoundTrips Module (fun _ => True) Module.withoutNull ∧ ReadsByName Module
    ["id", "contents", "kind", "dependencies", "is_entry", "is_external", "loaded_by",
      "plugin_data"]
  /-- The loaders of settings are a map. -/
  settings : RoundTrips Settings (fun s => Json.Increasing s.loaders) id ∧
    ReadsByName Settings ["entries", "bundle", "outfile", "outdir", "format", "platform",
      "external", "loaders", "cwd", "max_modules", "log_level"]

/-- All values that have a JSON form make the round trip, and all records are read from arrays and
from objects alike. -/
theorem formLaws : FormLaws where
  contentKind := lossless _
  importKind := lossless _
  outputFormat := lossless _
  platform := lossless _
  moduleId := ⟨lossless _, readsByName (by decide) fun h => by simp only [ofJson?, h]⟩
  importRecord := ⟨lossless _, readsByName (by decide) fun h => by simp only [ofJson?, h]⟩
  dependency := ⟨lossless _, readsByName (by decide) fun h => by simp only [ofJson?, h]⟩
  graphStatistics := ⟨lossless _, readsByName (by decide) fun h => by simp only [ofJson?, h]⟩
  buildStats := ⟨lossless _, readsByName (by decide) fun h => by simp only [ofJson?, h]⟩
  module := by
    refine ⟨⟨fun m _ => m.ofJson?_toJson, fun v m _ hread => ?_⟩,
      readsByName (by decide) fun h => by simp only [ofJson?, h]⟩
    rw [m.ofJson?_toJson, Module.withoutNull_of_ofJson? hread]
  settings := by
    refine ⟨⟨fun s hs => Settings.ofJson?_toJson hs, fun v s hv hread => ?_⟩,
      readsByName (by decide) fun h => by simp only [ofJson?, Settings.names, h]⟩
    exact Settings.ofJson?_toJson (Settings.increasing_of_ofJson? hv hread)

/-- Settings with loaders. -/
def markdownSettings : Settings where
  entries := ["a.md"]
  outdir := some ⟨"out"⟩
  loaders := [(".md", "text"), ("svg", "file")]

/-- A module to which `null` is attached. -/
def nullModule : Module where
  id := ⟨"a", "memory"⟩
  pluginData := some .null

/-- The laws of forms for settings with loaders, for a module with `null` attached, for settings
that are read from a short array, and for an identity among other entries. -/
theorem formLaws_markdownSettings :
    (Json.Increasing markdownSettings.loaders ∧
      ofJson? (toJson markdownSettings) = some markdownSettings) ∧
    ofJson? (toJson nullModule) = some { nullModule with pluginData := none } ∧
    ((Json.arr [.arr [.str "a.md"]]).Ordered ∧
      ofJson? (.arr [.arr [.str "a.md"]]) = some { entries := ["a.md"] : Settings } ∧
      ofJson? (toJson { entries := ["a.md"] : Settings }) =
        some { entries := ["a.md"] : Settings }) ∧
    (ofJson? (.arr [.str "a", .str "memory"]) : Option ModuleId) =
      ofJson? (.ofFields [("namespace", .str "memory"), ("x", .null), ("path", .str "a")]) := by
  have hloaders : Json.Increasing markdownSettings.loaders := by decide +kernel
  have hordered : (Json.arr [.arr [.str "a.md"]]).Ordered := by
    refine .arr fun v hv => ?_
    rw [List.mem_singleton.mp hv]
    exact .arr fun v hv => List.mem_singleton.mp hv ▸ .str _
  have hread : ofJson? (.arr [.arr [.str "a.md"]]) = some { entries := ["a.md"] : Settings } := rfl
  refine ⟨⟨hloaders, formLaws.settings.1.read_written _ hloaders⟩,
    formLaws.module.1.read_written nullModule trivial,
    ⟨hordered, hread, formLaws.settings.1.written_read _ _ hordered hread⟩, ?_⟩
  exact formLaws.moduleId.2 [.str "a", .str "memory"] [("x", .null)] _ rfl (by decide)
    (by decide +kernel)

end BundleGraph
