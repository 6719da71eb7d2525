import BundleGraph.Build.Options
import BundleGraph.Proofs.Build.FileProbes
import BundleGraph.Proofs.Settings.Validation

/-!
# The names listed as external

A specifier stays outside a build when it is listed or lies below a listed name.  Below the empty
name lies whatever starts with a slash, so that one empty name makes every absolute path external.
Settings with such a name are refused.  Options that are built up by calls are not: the checks on
them do not look at the names.

## Main definitions

* `OptionCall` — a call that builds options up, and `BuildOptions.ofCalls` — what calls make.
* `Named` — a specifier is a name of the list, or below one.
* `listed_iff_named_or_empty` — what is listed besides.
* `BuildOptions.ExternalLaw` — what files answer under the names that calls list.
* `BuildOptions.external_named_unless_empty` — all options that are built up keep it.
-/

namespace BundleGraph

/-- A call that builds options up. -/
inductive OptionCall where
  | bundle (follow : Bool)
  | external (names : List String)
  | loader (extension : String) (kind : ContentKind)
  | outdir (path : Path)
  | outfile (path : Path)
  | platform (value : Platform)
  | format (value : OutputFormat)
  | plugin (setup : Setup)
  | cwd (path : Path)
  | maxModules (max : Nat)

/-- The names that a call lists as external. -/
def OptionCall.names : OptionCall → List String
  | .external names => names
  | _ => []

/-- A specifier is a name of the list or lies below one, and the name is not empty. -/
def Named (names : List String) (specifier : String) : Prop :=
  ∃ e ∈ names, e ≠ "" ∧ (specifier = e ∨ ∃ rest, specifier = e ++ "/" ++ rest)

namespace BuildOptions

/-- What a call makes of options. -/
def call (o : BuildOptions) : OptionCall → BuildOptions
  | .bundle follow => { o with bundle := follow }
  | .external names => o.addExternals names
  | .loader extension kind => o.setLoader extension kind
  | .outdir path => { o with outdir := some path }
  | .outfile path => { o with outfile := some path }
  | .platform value => { o with platform := value }
  | .format value => { o with format := value }
  | .plugin setup => { o with plugins := o.plugins ++ [setup] }
  | .cwd path => { o with cwd := some path }
  | .maxModules max => { o with maxModules := max }

/-- The options for entries that calls build up. -/
def ofCalls (entries : List String) (calls : List OptionCall) : BuildOptions :=
  calls.foldl call { entries }

/-- The resolver of files under the names that options list. -/
def resolver (o : BuildOptions) (files : FileSystem) : FileResolver :=
  ⟨files, o.external⟩

end BuildOptions

/-! ## Names -/

/-- Below the empty name lies what starts with a slash. -/
theorem below_empty_iff {specifier : String} :
    (∃ rest, specifier = "" ++ "/" ++ rest) ↔ (⟨specifier⟩ : Path).isAbsolute = true := by
  rw [Path.isAbsolute_iff, List.head?_eq_some_iff]
  constructor
  · rintro ⟨rest, rfl⟩
    exact ⟨rest.toList, by simp⟩
  · rintro ⟨rest, hrest⟩
    refine ⟨String.ofList rest, String.toList_injective ?_⟩
    rw [hrest]
    simp

/-- Besides the names and what lies below them, the empty name lists itself and all absolute
paths. -/
theorem listed_iff_named_or_empty {names : List String} {specifier : String} :
    Listed names specifier ↔ Named names specifier ∨
      ("" ∈ names ∧ (specifier = "" ∨ (⟨specifier⟩ : Path).isAbsolute = true)) := by
  constructor
  · rintro ⟨e, he, hmatch⟩
    by_cases hempty : e = ""
    · subst hempty
      exact .inr ⟨he, hmatch.imp_right below_empty_iff.mp⟩
    · exact .inl ⟨e, he, hempty, hmatch⟩
  · rintro (⟨e, he, -, hmatch⟩ | ⟨he, hmatch⟩)
    · exact ⟨e, he, hmatch⟩
    · exact ⟨"", he, hmatch.imp_right below_empty_iff.mpr⟩

/-- The empty specifier is neither a name that is not empty nor below one. -/
theorem not_named_empty {names : List String} : ¬ Named names "" := by
  rintro ⟨e, -, hne, heq | ⟨rest, heq⟩⟩
  · exact hne heq.symm
  · have hchars := congrArg String.toList heq
    simp at hchars

theorem listed_congr {names names' : List String} (h : ∀ e, e ∈ names ↔ e ∈ names')
    (specifier : String) : Listed names specifier ↔ Listed names' specifier :=
  exists_congr fun e => and_congr_left fun _ => h e

/-- Files answer with an external exactly when the specifier is listed. -/
theorem FileResolver.external_iff_listed {r : FileResolver} {q : ResolveRequest} :
    (∃ t, (r.resolve q).result = .ok (some t) ∧ t.external = true) ↔
      Listed r.external q.specifier := by
  constructor
  · rintro ⟨t, ht, hexternal⟩
    rcases target_of_resolve ht with ⟨hlisted, -⟩ | ⟨-, p, path, -, -, rfl⟩
    · exact hlisted
    · cases hexternal
  · intro hlisted
    exact ⟨_, result_resolve_listed hlisted, rfl⟩

namespace BuildOptions

variable {o : BuildOptions} {entries : List String} {calls : List OptionCall} {files : FileSystem}

theorem addExternals_eq (o : BuildOptions) (names : List String) :
    ∃ external, o.addExternals names = { o with external } ∧
      ∀ e, e ∈ external ↔ e ∈ o.external ∨ e ∈ names := by
  induction names generalizing o with
  | nil => exact ⟨o.external, rfl, by simp⟩
  | cons a names ih =>
    obtain ⟨external, heq, hmem⟩ := ih (o.addExternal a)
    rw [addExternals] at heq
    rw [addExternals, List.foldl_cons, heq]
    by_cases ha : a ∈ o.external
    · rw [addExternal, if_pos (List.contains_iff_mem.mpr ha)] at hmem ⊢
      refine ⟨external, rfl, fun e => ?_⟩
      rw [hmem, List.mem_cons, or_left_comm]
      exact ⟨.inr, fun h => h.elim (fun he => .inl (he ▸ ha)) id⟩
    · rw [addExternal, if_neg fun hc => ha (List.contains_iff_mem.mp hc)] at hmem ⊢
      refine ⟨external, rfl, fun e => ?_⟩
      rw [hmem, List.mem_append, List.mem_singleton, List.mem_cons, or_assoc]

/-- Calls list their names and keep those that were listed. -/
theorem mem_external_call {e : String} {c : OptionCall} :
    e ∈ (o.call c).external ↔ e ∈ o.external ∨ e ∈ c.names := by
  cases c with
  | external names =>
    obtain ⟨external, heq, hmem⟩ := o.addExternals_eq names
    rw [call, heq]
    exact hmem e
  | _ => simp [call, OptionCall.names, setLoader]

theorem mem_external_ofCalls {e : String} :
    e ∈ (ofCalls entries calls).external ↔ e ∈ calls.flatMap OptionCall.names := by
  have hfold : ∀ o : BuildOptions, e ∈ (calls.foldl call o).external ↔
      e ∈ o.external ∨ e ∈ calls.flatMap OptionCall.names := by
    intro o
    induction calls generalizing o with
    | nil => simp
    | cons c calls ih =>
      rw [List.foldl_cons, ih, mem_external_call, List.flatMap_cons, List.mem_append, or_assoc]
  rw [ofCalls, hfold]
  simp

/-- The checks on options do not look at the names. -/
theorem validate_call_external (o : BuildOptions) (names : List String) :
    (o.call (.external names)).validate = o.validate := by
  obtain ⟨external, heq, -⟩ := o.addExternals_eq names
  rw [call, heq]
  rfl

/-- Options from settings do not list the empty name. -/
theorem empty_not_mem_of_ofSettings {s : Settings} (h : ofSettings s = .ok o) :
    "" ∉ o.external := by
  rw [ofSettings] at h
  split at h
  · cases h
  · rename_i hvalid
    cases hkinds : loaderKinds (normalLoaders s.loaders) with
    | error e =>
      rw [hkinds] at h
      cases h
    | ok loaders =>
      rw [hkinds] at h
      cases h
      have hplain := (Settings.validate_eq_ok_iff.mp hvalid).external_plain
      exact fun hempty => Bool.false_ne_true (hplain "" hempty).symm

/-- What files answer under the names that calls list. -/
structure ExternalLaw (names : List String) (o : BuildOptions) (files : FileSystem) : Prop where
  /-- External are the names, what lies below them, and under the empty name all absolute paths. -/
  external_iff : ∀ q : ResolveRequest,
    (∃ t, ((o.resolver files).resolve q).result = .ok (some t) ∧ t.external = true) ↔
      Named names q.specifier ∨
        ("" ∈ names ∧ (q.specifier = "" ∨ (⟨q.specifier⟩ : Path).isAbsolute = true))
  /-- So all that is external is named exactly if the empty name is not listed. -/
  named_iff : (∀ (q : ResolveRequest) (t : Target),
    ((o.resolver files).resolve q).result = .ok (some t) → t.external = true →
      Named names q.specifier) ↔ "" ∉ names
  /-- The path of a file that is not named leads to the file, unless the empty name is listed. -/
  file_of_unnamed : ∀ q : ResolveRequest, (⟨q.specifier⟩ : Path).isAbsolute = true →
    files.isFile (⟨q.specifier⟩ : Path).clean = true → ¬ Named names q.specifier →
    ((o.resolver files).resolve q).result =
      .ok (some (if "" ∈ names then { path := q.specifier, external := true }
        else { path := (⟨q.specifier⟩ : Path).clean.text }))
  /-- The checks on options pass or fail whatever names are listed. -/
  unchecked : ∀ more, (o.call (.external more)).validate = o.validate

/-- Under options that calls build up, what is external is a listed name or below one, unless the
empty name is listed, which the checks on options let pass.  Options from settings do not list
it. -/
theorem external_named_unless_empty (entries : List String) (calls : List OptionCall)
    (files : FileSystem) :
    ExternalLaw (calls.flatMap OptionCall.names) (ofCalls entries calls) files ∧
      ∀ s o, ofSettings s = .ok o → "" ∉ o.external := by
  refine ⟨?_, fun s o => empty_not_mem_of_ofSettings⟩
  have hlisted : ∀ specifier, Listed (ofCalls entries calls).external specifier ↔
      Named (calls.flatMap OptionCall.names) specifier ∨
        ("" ∈ calls.flatMap OptionCall.names ∧
          (specifier = "" ∨ (⟨specifier⟩ : Path).isAbsolute = true)) := fun specifier =>
    (listed_congr (fun e => mem_external_ofCalls) specifier).trans listed_iff_named_or_empty
  constructor
  case external_iff =>
    intro q
    rw [FileResolver.external_iff_listed]
    exact hlisted q.specifier
  case named_iff =>
    constructor
    · intro hnamed hempty
      have hanswer := FileResolver.result_resolve_listed
        (r := (ofCalls entries calls).resolver files) (q := .ofEntry "" ⟨"/"⟩)
        ((hlisted "").mpr (.inr ⟨hempty, .inl rfl⟩))
      exact not_named_empty (hnamed _ _ hanswer rfl)
    · intro hempty q t ht hflag
      have hq := FileResolver.external_iff_listed.mp ⟨t, ht, hflag⟩
      exact ((hlisted q.specifier).mp hq).resolve_right fun h => hempty h.1
  case file_of_unnamed =>
    intro q habs hfile hnamed
    by_cases hempty : "" ∈ calls.flatMap OptionCall.names
    · rw [if_pos hempty]
      exact FileResolver.result_resolve_listed ((hlisted _).mpr (.inr ⟨hempty, .inr habs⟩))
    · have hunlisted : ¬ Listed (ofCalls entries calls).external q.specifier := fun h =>
        ((hlisted q.specifier).mp h).elim hnamed fun h => hempty h.1
      rw [if_neg hempty, FileResolver.result_resolve_means hunlisted (.absolute habs),
        FileResolver.targetOf?, FileResolver.probe?_of_isFile hfile]
      rfl
  case unchecked => exact validate_call_external _

/-- A script in the directory of an application. -/
def scriptFiles : FileSystem :=
  (MemoryFiles.insert ⟨⟨"/app"⟩, []⟩ ⟨"/app/a.js"⟩ "1".toUTF8).fileSystem

/-- Options that list the empty name pass the checks, and make the path of the script external. -/
theorem emptyName_external :
    let calls := [OptionCall.external [""]]
    let o := ofCalls ["/app/a.js"] calls
    o.validate = .ok () ∧ (⟨"/app/a.js"⟩ : Path).isAbsolute = true ∧
      scriptFiles.isFile ⟨"/app/a.js"⟩ = true ∧
      ¬ Named (calls.flatMap OptionCall.names) "/app/a.js" ∧
      ((o.resolver scriptFiles).resolve (.ofEntry "/app/a.js" ⟨"/app"⟩)).result =
        .ok (some { path := "/app/a.js", external := true }) := by
  refine ⟨by decide +kernel, by decide +kernel, by decide +kernel, ?_, by decide +kernel⟩
  rintro ⟨e, he, hne, -⟩
  exact hne (List.mem_singleton.mp he)

end BuildOptions

end BundleGraph
