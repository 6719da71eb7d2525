import BundleGraph.FileSystem.Memory
import BundleGraph.Proofs.Settings.Stacked

/-!
# Settings come from the last layer that has them

A setting is what a variable says that names it, or else what the file says, or else its default.
Types are looked at when all layers have been laid over each other, so that what a variable
replaces may be of any type.

## Main definitions

* `Settings.Layered` — settings come from the last layer that has them, and
  `Settings.ofLayers?_eq_some_iff` says that these are the settings that are read.
* `Settings.Alike` — tables that differ in nothing that counts.
* `Settings.LayerLaw` — what loading settings comes to; `Settings.layerLaw` says that it always
  does.
-/

namespace BundleGraph

open Json JsonForm

namespace Settings

variable {file file' : Json} {env : Environment} {k : String} {s : Settings}

/-! ## What settings come from -/

/-- Settings come from the last layer that has them. -/
structure Layered (file : Json) (env : Environment) (s : Settings) : Prop where
  plain : ReadPlain (last? file env) s
  loaders_table : ∀ v ∈ last? file env "loaders", v.IsObject
  /-- A loader is what the variables say, or else what the file says. -/
  loaders : ∀ ext, ((loaderOf (variableLayer env) ext).or (loaderOf file ext)).map ofJson? =
    (lookup ext s.loaders).map some
  increasing : Increasing s.loaders

/-- The settings that are read from layers are those that come from the last layer that has
them. -/
theorem ofLayers?_eq_some_iff (hc : file.Concrete) (ho : file.IsObject) :
    ofLayers? [file, variableLayer env] = some s ↔ Layered file env s := by
  rw [ofLayers?_iff hc ho]
  constructor
  · rintro ⟨hplain, hloaders⟩
    obtain ⟨htable, hincreasing, hentries⟩ := (loaders_iff hc).mp hloaders
    refine ⟨hplain.imp fun hr b hb => ?_, htable, hentries, hincreasing⟩
    rwa [← hr.stacked_eq hc]
  · rintro ⟨hplain, htable, hentries, hincreasing⟩
    refine ⟨hplain.imp fun hr b hb => ?_, (loaders_iff hc).mpr ⟨htable, hincreasing, hentries⟩⟩
    rwa [hr.stacked_eq hc]

/-- A setting is what the last variable says that names it, or else what the file says, or else
its default. -/
theorem Layered.chosen (h : Layered file env s) : ReadPlain (chosen? file env) s := by
  refine h.plain.imp fun hr b hb => ?_
  rwa [hr.chosen?_eq hb]

/-! ## What does not count -/

/-- Files that differ in nothing but what no setting is named, or what a variable names. -/
structure Alike (env : Environment) (file file' : Json) : Prop where
  plain : ∀ k ∈ names, k ≠ "loaders" →
    file.get? k = file'.get? k ∨ (named? env k).isSome = true
  /-- If variables set loaders, then only those count that they do not set. -/
  loaders : file.get? "loaders" = file'.get? "loaders" ∨
    ((variableLayer env).get? "loaders").isSome = true ∧
      ∀ ext, loaderOf (variableLayer env) ext = none → loaderOf file ext = loaderOf file' ext

theorem Alike.symm (h : Alike env file file') : Alike env file' file where
  plain k hk hne := (h.plain k hk hne).imp_left Eq.symm
  loaders := h.loaders.imp Eq.symm fun h => ⟨h.1, fun ext hext => (h.2 ext hext).symm⟩

/-- What variables say of a setting counts alone. -/
theorem last?_congr (h : file.get? k = file'.get? k ∨
    ((variableLayer env).get? k).isSome = true) : last? file env k = last? file' env k := by
  rw [last?, last?]
  rcases h with h | h
  · rw [h]
  · obtain ⟨v, hv⟩ := Option.isSome_iff_exists.mp h
    rw [hv, Option.some_or, Option.some_or]

theorem Alike.layered (h : Alike env file file') (hs : Layered file env s) :
    Layered file' env s where
  plain := by
    refine hs.plain.imp fun hr b hb => ?_
    rwa [← last?_congr ((h.plain _ hr.mem hr.plain).imp_right isSome_get?_variableLayer)]
  loaders_table := by
    rw [← last?_congr (h.loaders.imp_right And.left)]
    exact hs.loaders_table
  loaders := by
    intro ext
    rw [← hs.loaders]
    rcases h.loaders with heq | ⟨-, hentries⟩
    · rw [loaderOf, loaderOf, loaderOf, heq]
    · cases hvar : loaderOf (variableLayer env) ext with
      | some v => rfl
      | none => rw [hentries ext hvar]
  increasing := hs.increasing

/-- Files that differ in nothing that counts give the same settings. -/
theorem Alike.ofLayers?_eq (h : Alike env file file') (hc : file.Concrete) (ho : file.IsObject)
    (hc' : file'.Concrete) (ho' : file'.IsObject) :
    ofLayers? [file, variableLayer env] = ofLayers? [file', variableLayer env] := by
  refine Option.ext fun s => ?_
  rw [ofLayers?_eq_some_iff hc ho, ofLayers?_eq_some_iff hc' ho']
  exact ⟨h.layered, h.symm.layered⟩

/-- Whether a variable names a setting, or something in it. -/
def namesSetting (e : String × String) : Bool :=
  match Variable.keys? variablePrefix e.1 with
  | some (k :: _) => names.contains k
  | _ => false

theorem setUnder?_of_not_namesSetting {e : String × String} (h : namesSetting e = false)
    (hk : k ∈ names) : setUnder? k e = none := by
  rw [namesSetting] at h
  rw [setUnder?]
  split
  · rename_i l ls hkeys
    rw [hkeys] at h
    have hne : l ≠ k := fun heq => by simp [heq, hk] at h
    rw [if_neg hne]
  · rfl

/-- Variables that name no setting set nothing under the name of one. -/
theorem get?_variableLayer_filter (env : Environment) (hk : k ∈ names) :
    (variableLayer (env.filter namesSetting)).get? k = (variableLayer env).get? k := by
  induction env using List.reverseRecOn with
  | nil => rfl
  | append_singleton env e ih =>
    rw [List.filter_append, get?_variableLayer_append]
    cases h : namesSetting e with
    | true =>
      rw [List.filter_cons_of_pos h, List.filter_nil, get?_variableLayer_append, ih]
    | false =>
      rw [List.filter_cons_of_neg (by simp [h]), List.filter_nil, List.append_nil, ih,
        setUnder?_of_not_namesSetting h hk, stack_none]

theorem ReadFrom.congr {under under' : String → Option Json} (h : ∀ k ∈ names, under k = under' k)
    (hread : ReadFrom under s) : ReadFrom under' s := by
  refine ⟨hread.plain.imp fun hr b hb => ?_, ?_⟩
  · rwa [← h _ hr.mem]
  · rw [← h "loaders" (by decide)]
    exact hread.loaders

theorem ofLayers?_filter (env : Environment) (hc : file.Concrete) (ho : file.IsObject) :
    ofLayers? [file, variableLayer (env.filter namesSetting)] =
      ofLayers? [file, variableLayer env] := by
  have hstacked : ∀ k ∈ names, stacked file (env.filter namesSetting) k = stacked file env k :=
    fun k hk => by rw [stacked, stacked, get?_variableLayer_filter env hk]
  refine Option.ext fun s => ?_
  rw [ofLayers?_iff hc ho, ofLayers?_iff hc ho]
  exact ⟨.congr hstacked, .congr fun k hk => (hstacked k hk).symm⟩

/-! ## Loading -/

/-- What comes of the layer of a file, if it can be read. -/
def ofFile (file : Option Json) (env : Environment) : Except SettingsError Settings :=
  match file.bind fun layer => ofLayers? [layer, variableLayer env] with
  | some s => .ok s
  | none => .error .unreadable

theorem ofFile_eq_ok_iff {layer : Option Json} : ofFile layer env = .ok s ↔
    ∃ file, layer = some file ∧ ofLayers? [file, variableLayer env] = some s := by
  rw [← Option.bind_eq_some_iff, ofFile]
  cases layer.bind fun layer => ofLayers? [layer, variableLayer env] <;> simp

theorem ofFile_ne_notFound (layer : Option Json) (env : Environment) (d : Path) :
    ofFile layer env ≠ .error (.notFound d) := by
  rw [ofFile]
  split <;> nofun

section
variable {fs : FileSystem} {directory path : Path}

theorem loadOrDefault_of_find? (h : find? fs directory = some path) :
    loadOrDefault fs env directory = ofFile (fileLayer fs path) env := by
  simp only [loadOrDefault, h]
  rfl

theorem loadOrDefault_of_none (h : find? fs directory = none) :
    loadOrDefault fs env directory = ofFile (some (.obj [])) env := by
  simp only [loadOrDefault, h]
  rfl

theorem load_of_find? (h : find? fs directory = some path) :
    load fs env directory = loadOrDefault fs env directory := by
  simp only [load, h]

theorem load_of_none (h : find? fs directory = none) :
    load fs env directory = .error (.notFound directory) := by
  simp only [load, h]

/-- The layer of a file is a table. -/
theorem fileLayer_spec (h : fileLayer fs path = some file) : file.Concrete ∧ file.IsObject := by
  rw [fileLayer] at h
  split at h
  · exact Toml.concrete_of_parse? h
  · cases h

/-- The settings that come of the layer of a file are those that come from the last layer that has
them. -/
theorem ofFile_eq_ok_iff_layered {layer : Option Json}
    (hlayer : ∀ file ∈ layer, file.Concrete ∧ file.IsObject) :
    ofFile layer env = .ok s ↔ ∃ file, layer = some file ∧ Layered file env s := by
  rw [ofFile_eq_ok_iff]
  refine exists_congr fun file => and_congr_right fun hfile => ?_
  obtain ⟨hc, ho⟩ := hlayer file hfile
  exact ofLayers?_eq_some_iff hc ho

end

/-- What loading settings comes to. -/
structure LayerLaw (fs : FileSystem) (env : Environment) (directory : Path) : Prop where
  /-- The settings of a directory are those that come from the last layer that has them. -/
  layered : ∀ s, load fs env directory = .ok s ↔
    ∃ path file, find? fs directory = some path ∧ fileLayer fs path = some file ∧
      Layered file env s
  /-- A setting other than the loaders is what the last variable says that names it, or else what
  the file says, or else its default. -/
  chosen : ∀ s, load fs env directory = .ok s →
    ∃ path file, find? fs directory = some path ∧ fileLayer fs path = some file ∧
      ReadPlain (chosen? file env) s
  /-- They depend on the table of the file and on the variables. -/
  loaded : ∀ path, find? fs directory = some path →
    load fs env directory = ofFile (fileLayer fs path) env
  /-- Whether settings can be loaded, and what they are, depends on nothing in the table that no
  setting is named or that a variable names; it may be of any type there. -/
  alike : ∀ path file file', find? fs directory = some path → fileLayer fs path = some file →
    file'.Concrete → file'.IsObject → Alike env file file' →
      load fs env directory = ofFile (some file') env
  /-- It depends on no variable that names no setting. -/
  named_only : load fs (env.filter namesSetting) directory = load fs env directory
  /-- Only without a file it is said that there is none. -/
  not_found : (∃ d, load fs env directory = .error (.notFound d)) ↔
    fs.isFile (directory.join ⟨fileName⟩) = false
  /-- The directory is named then. -/
  directory_named : fs.isFile (directory.join ⟨fileName⟩) = false →
    load fs env directory = .error (.notFound directory)
  /-- With a file it makes no difference whether one is asked for. -/
  agrees : fs.isFile (directory.join ⟨fileName⟩) = true →
    load fs env directory = loadOrDefault fs env directory
  /-- Without a file everything depends on the variables alone. -/
  variables_alone : fs.isFile (directory.join ⟨fileName⟩) = false →
    ∀ (fs' : FileSystem) (directory' : Path), fs'.isFile (directory'.join ⟨fileName⟩) = false →
      loadOrDefault fs env directory = loadOrDefault fs' env directory'
  /-- The settings come from the variables and the defaults then. -/
  layered_without_file : fs.isFile (directory.join ⟨fileName⟩) = false →
    ∀ s, loadOrDefault fs env directory = .ok s ↔ Layered (.obj []) env s
  /-- Each setting is named by the variable of its name in capital letters. -/
  setting_names : ∀ k ∈ names,
    Variable.keys? variablePrefix (variablePrefix ++ k.toUpper) = some [k]

section
variable {fs : FileSystem} {directory path : Path}

theorem find?_eq_none_iff :
    find? fs directory = none ↔ fs.isFile (directory.join ⟨fileName⟩) = false := by
  simp [find?]

theorem find?_of_isFile (h : fs.isFile (directory.join ⟨fileName⟩) = true) :
    find? fs directory = some (directory.join ⟨fileName⟩) :=
  if_pos h

end

/-- The variables that name no setting change nothing. -/
theorem load_filter (fs : FileSystem) (env : Environment) (directory : Path) :
    load fs (env.filter namesSetting) directory = load fs env directory := by
  cases hfind : find? fs directory with
  | none => rw [load_of_none hfind, load_of_none hfind]
  | some path =>
    rw [load_of_find? hfind, load_of_find? hfind, loadOrDefault_of_find? hfind,
      loadOrDefault_of_find? hfind]
    cases hlayer : fileLayer fs path with
    | none => rfl
    | some file =>
      obtain ⟨hc, ho⟩ := fileLayer_spec hlayer
      rw [ofFile, ofFile, Option.bind_some, Option.bind_some, ofLayers?_filter env hc ho]

/-- The settings of a directory with a file. -/
theorem load_eq_ok_iff {fs : FileSystem} {directory : Path} : load fs env directory = .ok s ↔
    ∃ path file, find? fs directory = some path ∧ fileLayer fs path = some file ∧
      Layered file env s := by
  cases hfind : find? fs directory with
  | none =>
    rw [load_of_none hfind]
    simp
  | some path =>
    rw [load_of_find? hfind, loadOrDefault_of_find? hfind,
      ofFile_eq_ok_iff_layered fun file hfile => fileLayer_spec hfile]
    simp

theorem layerLaw (fs : FileSystem) (env : Environment) (directory : Path) :
    LayerLaw fs env directory where
  layered s := load_eq_ok_iff
  chosen := by
    intro s h
    obtain ⟨path, file, hfind, hlayer, hs⟩ := load_eq_ok_iff.mp h
    exact ⟨path, file, hfind, hlayer, hs.chosen⟩
  loaded path hfind := (load_of_find? hfind).trans (loadOrDefault_of_find? hfind)
  alike := by
    intro path file file' hfind hlayer hc' ho' halike
    obtain ⟨hc, ho⟩ := fileLayer_spec hlayer
    rw [load_of_find? hfind, loadOrDefault_of_find? hfind, hlayer, ofFile, ofFile,
      Option.bind_some, Option.bind_some, halike.ofLayers?_eq hc ho hc' ho']
  named_only := load_filter fs env directory
  not_found := by
    rw [← find?_eq_none_iff]
    refine ⟨fun ⟨d, hd⟩ => ?_, fun h => ⟨directory, load_of_none h⟩⟩
    by_contra hne
    obtain ⟨path, hfind⟩ := Option.ne_none_iff_exists'.mp hne
    rw [load_of_find? hfind, loadOrDefault_of_find? hfind] at hd
    exact ofFile_ne_notFound _ _ _ hd
  directory_named h := load_of_none (find?_eq_none_iff.mpr h)
  agrees h := load_of_find? (find?_of_isFile h)
  variables_alone := by
    intro h fs' directory' h'
    rw [loadOrDefault_of_none (find?_eq_none_iff.mpr h),
      loadOrDefault_of_none (find?_eq_none_iff.mpr h')]
  layered_without_file := by
    intro h s
    have hempty : ∀ file ∈ some (Json.obj []), file.Concrete ∧ file.IsObject :=
      fun file hfile => Option.some.inj hfile ▸ ⟨.obj .nil nofun, [], rfl⟩
    rw [loadOrDefault_of_none (find?_eq_none_iff.mpr h), ofFile_eq_ok_iff_layered hempty]
    simp
  setting_names := by decide +kernel

/-- Files in which a format and a loader are of the wrong type. -/
def wrongTypes : MemoryFiles where
  directory := ⟨"/app"⟩
  files := [(⟨"/app/fob.toml"⟩,
    "format = 3\nplatform = \"node\"\n[loaders]\nmd = \"text\"\nsvg = 1\n".toUTF8)]

/-- Variables that set both of them. -/
def rightTypes : Environment :=
  [("FOB_FORMAT", "cjs"), ("FOB_LOADERS.SVG", "text")]

/-- What the variables set takes the place of what is of the wrong type. -/
theorem layerLaw_wrongTypes :
    let s : Settings :=
      { format := .cjs, platform := .node, loaders := [("md", "text"), ("svg", "text")] }
    load wrongTypes.fileSystem rightTypes ⟨"/app"⟩ = .ok s ∧
      ∃ path file, find? wrongTypes.fileSystem ⟨"/app"⟩ = some path ∧
        fileLayer wrongTypes.fileSystem path = some file ∧ Layered file rightTypes s := by
  intro s
  have hload : load wrongTypes.fileSystem rightTypes ⟨"/app"⟩ = .ok s := by decide +kernel
  exact ⟨hload, ((layerLaw wrongTypes.fileSystem rightTypes ⟨"/app"⟩).layered s).mp hload⟩

end Settings

end BundleGraph
