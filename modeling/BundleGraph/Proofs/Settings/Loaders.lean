import BundleGraph.Build.Files
import BundleGraph.Proofs.Build.ListedNames
import BundleGraph.Proofs.Settings.Extensions
import BundleGraph.Proofs.Settings.Validation

/-!
# Loaders from settings

Settings name the kinds of extensions, and options hold the kinds themselves.  The map of names is
brought to normal keys before its names are read, so that of entries that spell one extension only
the last is read.

## Main definitions

* `namedKinds` — the kinds that a map names.
* `Settings.loaderCalls` — the calls that set the loaders of settings one by one.
* `BuildOptions.SettingsAgree` — what holds of options from settings that name kinds only.
* `BuildOptions.settings_agree_with_calls` — all such settings make such options.
* `BuildOptions.RefusalLaw` — when settings are refused.
* `BuildOptions.unknown_kind_refused_unless_overridden` — all settings keep it.
-/

namespace BundleGraph

variable {loaders : List (String × String)} {s : Settings} {o : BuildOptions}

/-- The kinds that a map names; names of no kind are left out. -/
def namedKinds (loaders : List (String × String)) : List (String × ContentKind) :=
  loaders.filterMap fun l => (ContentKind.ofName? l.2).map (l.1, ·)

/-- All values of a map are names of kinds. -/
def KindsNamed (loaders : List (String × String)) : Prop :=
  ∀ l ∈ loaders, (ContentKind.ofName? l.2).isSome = true

instance (loaders : List (String × String)) : Decidable (KindsNamed loaders) :=
  inferInstanceAs (Decidable (∀ l ∈ loaders, (ContentKind.ofName? l.2).isSome = true))

/-- The calls that set the loaders of settings, in the order of their map. -/
def Settings.loaderCalls (s : Settings) : List OptionCall :=
  (namedKinds s.loaders).map fun l => .loader l.1 l.2

/-! ## Reading the names of kinds -/

/-- The kinds are read until the first name of no kind, which is the error. -/
theorem loaderKinds_eq (loaders : List (String × String)) :
    loaderKinds loaders =
      match loaders.find? fun l => (ContentKind.ofName? l.2).isNone with
      | some l => .error (.options (.unknownLoader l.2 l.1))
      | none => .ok (namedKinds loaders) := by
  induction loaders with
  | nil => rfl
  | cons l loaders ih =>
    rw [loaderKinds, loaderKind, namedKinds, List.filterMap_cons]
    cases hkind : ContentKind.ofName? l.2 with
    | none => rw [List.find?_cons_of_pos (by rw [hkind]; rfl)]
    | some kind =>
      rw [List.find?_cons_of_neg (by rw [hkind]; exact Bool.false_ne_true)]
      simp only [ih]
      cases loaders.find? fun l => (ContentKind.ofName? l.2).isNone <;> rfl

theorem loaderKinds_eq_ok_iff {kinds : List (String × ContentKind)} :
    loaderKinds loaders = .ok kinds ↔ KindsNamed loaders ∧ namedKinds loaders = kinds := by
  rw [loaderKinds_eq]
  cases hfind : loaders.find? fun l => (ContentKind.ofName? l.2).isNone with
  | none =>
    have hnamed : KindsNamed loaders := fun l hl =>
      Option.isSome_iff_ne_none.mpr (by simpa using List.find?_eq_none.mp hfind l hl)
    simp [hnamed]
  | some l =>
    have hnone : ContentKind.ofName? l.2 = none := by simpa using List.find?_some hfind
    have hunnamed : ¬ KindsNamed loaders := fun h => by
      simpa [hnone] using h l (List.mem_of_find?_eq_some hfind)
    simp [hunnamed]

/-- The error names the first entry with a name of no kind. -/
theorem first_of_loaderKinds_eq_error {e : BuildError} (h : loaderKinds loaders = .error e) :
    ∃ before l after, loaders = before ++ l :: after ∧ KindsNamed before ∧
      ContentKind.ofName? l.2 = none ∧ e = .options (.unknownLoader l.2 l.1) := by
  rw [loaderKinds_eq] at h
  cases hfind : loaders.find? fun l => (ContentKind.ofName? l.2).isNone with
  | none => rw [hfind] at h; cases h
  | some l =>
    rw [hfind] at h
    cases h
    obtain ⟨hnone, before, after, heq, hbefore⟩ := List.find?_eq_some_iff_append.mp hfind
    exact ⟨before, l, after, heq, fun l' hl' => by simpa using hbefore l' hl',
      by simpa using hnone, rfl⟩

/-- A map whose names are those of kinds is read entry by entry. -/
theorem namedKinds_eq_map (h : KindsNamed loaders) :
    namedKinds loaders = loaders.map fun l => (l.1, (ContentKind.ofName? l.2).getD default) := by
  rw [namedKinds, ← List.filterMap_eq_map]
  refine List.filterMap_congr fun l hl => ?_
  obtain ⟨kind, hkind⟩ := Option.isSome_iff_exists.mp (h l hl)
  simp [hkind]

theorem kindsNamed_normalLoaders_iff :
    KindsNamed (normalLoaders loaders) ↔
      ∀ l, Counts loaders l → (ContentKind.ofName? l.2).isSome = true := by
  constructor
  · exact fun h l hl => h (normalExtension l.1, l.2) (mem_normalLoaders_iff.mpr ⟨l, hl, rfl⟩)
  · intro h e he
    obtain ⟨l, hl, rfl⟩ := mem_normalLoaders_iff.mp he
    exact h l hl

theorem KindsNamed.normalLoaders (h : KindsNamed loaders) : KindsNamed (normalLoaders loaders) :=
  kindsNamed_normalLoaders_iff.mpr fun l hl => h l hl.mem

/-- Names of kinds may be read before or after the keys are brought to their normal form. -/
theorem namedKinds_normalLoaders (h : KindsNamed loaders) :
    namedKinds (normalLoaders loaders) = normalLoaders (namedKinds loaders) := by
  rw [namedKinds_eq_map h, namedKinds_eq_map h.normalLoaders]
  exact (normalLoaders_map fun name => (ContentKind.ofName? name).getD default).symm

theorem lookup_namedKinds {k : String} (h : KindsNamed loaders) :
    Json.lookup k (namedKinds loaders) = (Json.lookup k loaders).bind ContentKind.ofName? := by
  rw [namedKinds_eq_map h, Json.lookup_map fun name => (ContentKind.ofName? name).getD default]
  cases hk : Json.lookup k loaders with
  | none => rfl
  | some name =>
    obtain ⟨kind, hkind⟩ := Option.isSome_iff_exists.mp (h _ (Json.mem_of_lookup hk))
    simp [hkind]

/-! ## Options from settings -/

namespace BuildOptions

theorem ofSettings_eq_ok_iff :
    ofSettings s = .ok o ↔ s.validate = .ok () ∧ KindsNamed (normalLoaders s.loaders) ∧
      { entries := s.entries
        bundle := s.bundle
        outfile := s.outfile
        outdir := s.outdir
        format := s.format
        platform := s.platform
        external := s.external
        loaders := namedKinds (normalLoaders s.loaders)
        cwd := s.cwd
        maxModules := s.maxModules } = o := by
  rw [ofSettings]
  cases s.validate with
  | error e => simp
  | ok _ =>
    cases hkinds : loaderKinds (normalLoaders s.loaders) with
    | error e =>
      have hnamed : ¬ KindsNamed (normalLoaders s.loaders) := fun h => by
        simpa [hkinds] using loaderKinds_eq_ok_iff.mpr ⟨h, rfl⟩
      simp [Except.map, hnamed]
    | ok kinds =>
      obtain ⟨hnamed, rfl⟩ := loaderKinds_eq_ok_iff.mp hkinds
      simp [Except.map, hnamed]

theorem exists_ofSettings_eq_ok_iff : (∃ o, ofSettings s = .ok o) ↔
    s.validate = .ok () ∧ KindsNamed (normalLoaders s.loaders) := by
  constructor
  · rintro ⟨o, ho⟩
    obtain ⟨hvalid, hnamed, -⟩ := ofSettings_eq_ok_iff.mp ho
    exact ⟨hvalid, hnamed⟩
  · rintro ⟨hvalid, hnamed⟩
    exact ⟨_, ofSettings_eq_ok_iff.mpr ⟨hvalid, hnamed, rfl⟩⟩

theorem ofSettings_eq_error_iff {e : BuildError} :
    ofSettings s = .error e ↔ (∃ e', s.validate = .error e' ∧ .settings e' = e) ∨
      (s.validate = .ok () ∧ loaderKinds (normalLoaders s.loaders) = .error e) := by
  rw [ofSettings]
  cases s.validate with
  | error e => simp
  | ok _ => cases loaderKinds (normalLoaders s.loaders) <;> simp [Except.map]

/-- Calls put loaders in as a map is put together. -/
theorem loaders_ofCalls (entries : List String) (kinds : List (String × ContentKind)) :
    (ofCalls entries (kinds.map fun l => .loader l.1 l.2)).loaders = normalLoaders kinds := by
  have hfold : ∀ o : BuildOptions,
      ((kinds.map fun l => OptionCall.loader l.1 l.2).foldl call o).loaders =
        (kinds.map fun l => (normalExtension l.1, l.2)).foldl
          (fun acc e => Json.insert e.1 e.2 acc) o.loaders := by
    induction kinds with
    | nil => exact fun o => rfl
    | cons l kinds ih => exact fun o => ih (o.call (.loader l.1 l.2))
  exact hfold { entries }

/-- Settings that pass their checks make options that pass theirs. -/
theorem validate_of_ofSettings (h : ofSettings s = .ok o) : o.validate = .ok () := by
  obtain ⟨hvalid, -, rfl⟩ := ofSettings_eq_ok_iff.mp h
  have hs := Settings.validate_eq_ok_iff.mp hvalid
  exact validate_eq_ok_iff.mpr
    { entries_ne := hs.entries_ne
      entries_plain := hs.entries_plain
      one_output := fun hdir => by
        cases hfile : s.outfile.isSome with
        | false => rfl
        | true => rw [hs.one_output hfile] at hdir; cases hdir
      one_entry := hs.one_entry
      maxModules_ne := hs.maxModules_ne }

/-- The keys of options from settings are in their normal form. -/
theorem isNormal_of_ofSettings (h : ofSettings s = .ok o) {l : String × ContentKind}
    (hl : l ∈ o.loaders) : IsNormal l.1 := by
  obtain ⟨hvalid, -, rfl⟩ := ofSettings_eq_ok_iff.mp h
  obtain ⟨e, he, hkind⟩ := List.mem_filterMap.mp hl
  obtain ⟨kind, -, rfl⟩ := Option.map_eq_some_iff.mp hkind
  obtain ⟨l, hcounts, rfl⟩ := mem_normalLoaders_iff.mp he
  exact isNormal_normalExtension
    ((Settings.validate_eq_ok_iff.mp hvalid).loaders_named l hcounts.mem)

/-- What holds of options from settings whose loaders all name kinds. -/
structure SettingsAgree (s : Settings) (o : BuildOptions) : Prop where
  valid : o.validate = .ok ()
  /-- The loaders are those that calls set one by one. -/
  loaders_eq : o.loaders = (ofCalls s.entries s.loaderCalls).loaders
  normal : ∀ l ∈ o.loaders, IsNormal l.1
  normal_again : normalLoaders o.loaders = o.loaders
  /-- A file is loaded as the last entry that spells its extension says, and as the built-in kind
  only if there is no such entry. -/
  kindOf?_eq : ∀ (files : FileSystem) (id : ModuleId),
    (⟨files, o.loaders⟩ : FileLoader).kindOf? id =
      id.asPath.extension?.bind fun ext =>
        match s.loaders.reverse.find? fun l => spells l.1 ext with
        | some l => ContentKind.ofName? l.2
        | none => ContentKind.ofExtension? ext

/-- Settings whose loaders all name kinds make options exactly if they pass their checks, and the
options are as if calls had set the loaders. -/
theorem settings_agree_with_calls (s : Settings) (h : KindsNamed s.loaders) :
    ((∃ o, ofSettings s = .ok o) ↔ s.validate = .ok ()) ∧
      ∀ o, ofSettings s = .ok o → SettingsAgree s o := by
  constructor
  · exact exists_ofSettings_eq_ok_iff.trans (and_iff_left h.normalLoaders)
  · intro o ho
    have hloaders : o.loaders = namedKinds (normalLoaders s.loaders) := by
      obtain ⟨-, -, rfl⟩ := ofSettings_eq_ok_iff.mp ho
      rfl
    constructor
    case valid => exact validate_of_ofSettings ho
    case loaders_eq =>
      rw [hloaders, Settings.loaderCalls, loaders_ofCalls, namedKinds_normalLoaders h]
    case normal => exact fun l => isNormal_of_ofSettings ho
    case normal_again => rw [hloaders, namedKinds_normalLoaders h, normalLoaders_normalLoaders]
    case kindOf?_eq =>
      intro files id
      rw [FileLoader.kindOf?, ModuleId.extension?, Option.bind_map]
      refine congrArg _ (funext fun ext => ?_)
      rw [Function.comp, hloaders, lookup_namedKinds h.normalLoaders, lookup_normalLoaders,
        ContentKind.ofExtension?_asciiLower]
      cases hfind : s.loaders.reverse.find? fun l => spells l.1 ext with
      | none => rfl
      | some l =>
        have hl := List.mem_reverse.mp (List.mem_of_find?_eq_some hfind)
        obtain ⟨kind, hkind⟩ := Option.isSome_iff_exists.mp (h l hl)
        simp [hkind]

/-- Settings that spell one extension in three ways. -/
def manySpellings : Settings :=
  { entries := ["./main.ts"]
    loaders := [("..Md", "text"), (".MD", "JSON"), ("TXT", "binary"), ("md", "Css")] }

/-- The last spelling counts, in options as for a file with a fourth one. -/
theorem settings_agree_manySpellings :
    KindsNamed manySpellings.loaders ∧
      ∃ o, ofSettings manySpellings = .ok o ∧ SettingsAgree manySpellings o ∧
        o.loaders = [("md", .css), ("txt", .binary)] ∧
        (⟨scriptFiles, o.loaders⟩ : FileLoader).kindOf? ⟨"/app/notes.mD", fileSpace⟩ = some .css ∧
        (⟨scriptFiles, o.loaders⟩ : FileLoader).kindOf? ⟨"/app/a.js", fileSpace⟩ = some .js := by
  have hnamed : KindsNamed manySpellings.loaders := by decide +kernel
  obtain ⟨hok, hagree⟩ := settings_agree_with_calls manySpellings hnamed
  obtain ⟨o, ho⟩ := hok.mpr (by decide +kernel)
  have h := hagree o ho
  refine ⟨hnamed, o, ho, h, ?_, ?_, ?_⟩
  · rw [h.loaders_eq]
    decide +kernel
  · rw [h.kindOf?_eq]
    decide +kernel
  · rw [h.kindOf?_eq]
    decide +kernel

/-- When settings are refused. -/
structure RefusalLaw (s : Settings) : Prop where
  /-- A name of no kind is refused if it counts. -/
  refused_iff : (∃ e, ofSettings s = .error e) ↔
    (∃ e, s.validate = .error e) ∨
      ∃ l, Counts s.loaders l ∧ ContentKind.ofName? l.2 = none
  /-- The error names the smallest extension under which such a name counts. -/
  error_eq : s.validate = .ok () → ∀ e, ofSettings s = .error e →
    ∃ l, Counts s.loaders l ∧ ContentKind.ofName? l.2 = none ∧
      (∀ l', Counts s.loaders l' → ContentKind.ofName? l'.2 = none →
        normalExtension l.1 ≤ normalExtension l'.1) ∧
      e = .options (.unknownLoader l.2 (normalExtension l.1))
  /-- All names of no kind are refused if no two entries spell one extension. -/
  refused_of_nodup : (s.loaders.map fun l => normalExtension l.1).Nodup →
    (∃ l ∈ s.loaders, ContentKind.ofName? l.2 = none) → ∃ e, ofSettings s = .error e

/-- Settings that pass their checks are refused exactly if a name of no kind counts: an entry that
a later one overrides is not looked at. -/
theorem unknown_kind_refused_unless_overridden (s : Settings) : RefusalLaw s := by
  have hchecks : ¬ s.validate = .ok () ↔ ∃ e, s.validate = .error e := by
    cases s.validate <;> simp
  have hnames : ¬ KindsNamed (normalLoaders s.loaders) ↔
      ∃ l, Counts s.loaders l ∧ ContentKind.ofName? l.2 = none := by
    simp [kindsNamed_normalLoaders_iff]
  have hrefused : (∃ e, ofSettings s = .error e) ↔ ¬ ∃ o, ofSettings s = .ok o := by
    cases ofSettings s <;> simp
  rw [exists_ofSettings_eq_ok_iff, not_and_or, hchecks, hnames] at hrefused
  constructor
  case refused_iff => exact hrefused
  case error_eq =>
    intro hvalid e he
    rcases ofSettings_eq_error_iff.mp he with ⟨e', he', -⟩ | ⟨-, hkinds⟩
    · rw [hvalid] at he'
      cases he'
    · obtain ⟨before, d, after, heq, hbefore, hnone, rfl⟩ := first_of_loaderKinds_eq_error hkinds
      have hd : d ∈ normalLoaders s.loaders := heq ▸ List.mem_append_right before List.mem_cons_self
      obtain ⟨l, hl, rfl⟩ := mem_normalLoaders_iff.mp hd
      refine ⟨l, hl, hnone, fun l' hl' hnone' => ?_, rfl⟩
      have hsorted := increasing_normalLoaders s.loaders
      have hmem := mem_normalLoaders_iff.mpr ⟨l', hl', rfl⟩
      rw [heq] at hsorted hmem
      -- Before the entry in the error all names are those of kinds.
      have hnot : (normalExtension l'.1, l'.2) ∉ before := fun hmem => by
        simpa [hnone'] using hbefore _ hmem
      have hle := hsorted.le_of_not_mem hmem hnot
      exact hle
  case refused_of_nodup =>
    rintro hnodup ⟨l, hl, hnone⟩
    exact hrefused.mpr (.inr ⟨l, counts_of_nodup hnodup hl, hnone⟩)

/-- Settings with a name of no kind that a later entry overrides. -/
def overridden : Settings :=
  { entries := ["./main.ts"], loaders := [(".md", "markdown"), ("md", "text")] }

/-- The settings make options although they hold a name of no kind. -/
theorem overridden_unknown_kind_accepted :
    (∃ l ∈ overridden.loaders, ContentKind.ofName? l.2 = none) ∧
      ∃ o, ofSettings overridden = .ok o ∧ o.loaders = [("md", .text)] :=
  ⟨⟨(".md", "markdown"), List.mem_cons_self, by decide +kernel⟩, _,
    ofSettings_eq_ok_iff.mpr ⟨by decide +kernel, by decide +kernel, rfl⟩, by decide +kernel⟩

end BuildOptions

end BundleGraph
