import BundleGraph.Build.Report
import BundleGraph.Proofs.Build.FileAnswers
import BundleGraph.Proofs.Plugin.Dispatch
import BundleGraph.Proofs.Plugin.Identity
import BundleGraph.Proofs.Run.Demand

/-!
# What a build without plugins needs

Without plugins, a request is answered by files: with a listed specifier, which is external under
its own text, or with a file, which is not.  Its key decides, and nothing is attached to the
answer.  So requests of one key fare alike.  Requests that lead to one identity need not, since a
listed specifier may be the path of a file, to which other specifiers lead as well.

In a build that starts from an absolute directory, all files have absolute paths.  So no identity
is both when none of the listed specifiers starts with a slash.

## Main definitions

* `BuildPlan.OneFlag` — what a build needs under one identity is external throughout or nowhere.
* `Resolution.Placed` — a listed specifier, or a file with an absolute path.
* `BuildOptions.eq_of_answers` — what answers a request.
* `BuildOptions.answersByKey_of_files` — requests of one key fare alike.
* `BuildOptions.oneFlag_of_bare` — builds in which every identity has one flag.
-/

namespace BundleGraph

/-- What a build needs under one identity is external throughout or nowhere. -/
def BuildPlan.OneFlag (p : BuildPlan) (directory : Path) (entries : List String) : Prop :=
  ∀ r r', p.Needs directory entries r → p.Needs directory entries r' → r.id = r'.id →
    r.external = r'.external

/-- A listed specifier, which is external, or a file with an absolute path, which is not. -/
inductive Resolution.Placed (external : List String) (r : Resolution) : Prop where
  | listed (he : r.external = true) (h : isExternal r.id.path external = true)
  | file (he : r.external = false) (h : r.id.asPath.isAbsolute = true)

/-! ## What is needed without plugins -/

namespace BuildOptions

variable {o : BuildOptions} {files : FileSystem} {directory : Path} {entries : List String}
variable {q : ResolveRequest} {r : Resolution}

/-- Without plugins, a request is answered with what files answer. -/
theorem answers_iff :
    (o.plan {} files).Answers q r ↔
      ∃ t, (FileResolver.resolve { files, external := o.external } q).result = .ok (some t) ∧
        Resolution.ofDefault t = .ok r := by
  change (resolveByDefault (FileResolver.resolve { files, external := o.external }) q).result =
    .ok r ↔ _
  rw [result_resolveByDefault]
  rcases (FileResolver.resolve { files, external := o.external } q).result with e | _ | t
  · simp
  · simp
  · simp

theorem answersByKey_of_files : (o.plan {} files).AnswersByKey := by
  refine BuildPlan.answersByKey_of_answers fun q q' r hkey hr => ?_
  obtain ⟨t, ht, hrt⟩ := answers_iff.mp hr
  refine answers_iff.mpr ⟨t, ?_, hrt⟩
  rw [← ht]
  exact (FileResolver.result_resolve_congr _ hkey).symm

/-- Without plugins, a request leads to a listed specifier, or to the file that another specifier
leads to. -/
theorem eq_of_answers (h : (o.plan {} files).Answers q r) :
    (Listed o.external q.specifier ∧ r = ⟨⟨q.specifier, fileSpace⟩, true, none, none⟩) ∨
      (¬ Listed o.external q.specifier ∧ ∃ p path : Path,
        MeansPath q.directory q.specifier p ∧
        FileResolver.probe? { files, external := o.external } p.clean = some path ∧
        r = ⟨⟨path.text, fileSpace⟩, false, none, none⟩) := by
  obtain ⟨t, ht, hr⟩ := answers_iff.mp h
  cases Resolution.ofDefault_eq hr
  obtain ⟨hlisted, rfl⟩ | ⟨hlisted, p, path, hp, hpath, rfl⟩ := FileResolver.target_of_resolve ht
  · exact .inl ⟨hlisted, rfl⟩
  · exact .inr ⟨hlisted, p, path, hp, hpath, rfl⟩

theorem pluginData_of_answers (h : (o.plan {} files).Answers q r) : r.pluginData = none := by
  obtain ⟨-, rfl⟩ | ⟨-, p, path, -, -, rfl⟩ := eq_of_answers h
  · rfl
  · rfl

/-- Without plugins, only the flag could tell apart what is needed under one identity. -/
theorem needsById_of_oneFlag (h : (o.plan {} files).OneFlag directory entries) :
    (o.plan {} files).NeedsById directory entries := by
  intro r r' hr hr' hid
  obtain ⟨q, hq⟩ := hr.exists_answer
  obtain ⟨q', hq'⟩ := hr'.exists_answer
  exact ⟨h r r' hr hr' hid, (pluginData_of_answers hq).trans (pluginData_of_answers hq').symm⟩

/-- From an absolute directory, files have absolute paths. -/
theorem placed_of_answers (hd : ∀ d, q.directory = some d → d.isAbsolute = true)
    (h : (o.plan {} files).Answers q r) : r.Placed o.external := by
  obtain ⟨hlisted, rfl⟩ | ⟨-, p, path, hp, hpath, rfl⟩ := eq_of_answers h
  · exact .listed rfl (isExternal_iff.mpr hlisted)
  · have habsolute : p.isAbsolute = true := by
      cases hp with
      | absolute hp => exact hp
      | relative _ hq => exact Path.isAbsolute_join (hd _ hq) _
    exact .file rfl (FileResolver.isAbsolute_of_probe? (Path.isAbsolute_clean habsolute) hpath)

/-- Without plugins, what is loaded is a file. -/
theorem reads_of_load {q : LoadRequest} {loaded : LoadedModule}
    (h : ((o.plan {} files).load q).result = .ok loaded) :
    FileLoader.Reads { files, loaders := o.loaders } q.id loaded :=
  FileLoader.reads_of_load h

/-- Without plugins, only files make requests, and they are made from the directories that the
files are in. -/
theorem directory_of_makes {log : List (ResolveRequest × Resolution)} {m : Module}
    {a : ResolveRequest × Resolution} (h : (o.plan {} files).Makes r log m) (ha : a ∈ log) :
    r.external = false ∧ a.1.directory = r.id.asPath.parent? := by
  cases h with
  | external => cases ha
  | loaded hr hl _ =>
    obtain ⟨c, -, rfl⟩ := List.mem_map.mp ha
    exact ⟨hr, (reads_of_load hl).directory_eq⟩

/-- In a build from an absolute directory, all files have absolute paths. -/
theorem placed_of_needs (hd : directory.isAbsolute = true)
    (h : (o.plan {} files).Needs directory entries r) : r.Placed o.external := by
  induction h with
  | entry _ hr =>
    refine placed_of_answers (fun d hq => ?_) hr
    cases hq
    exact hd
  | @child r log m a _ hm ha ih =>
    obtain ⟨hmakes, hanswers⟩ := hm
    obtain ⟨hr, hdirectory⟩ := directory_of_makes hmakes ha
    refine placed_of_answers (fun d hq => ?_) (hanswers a ha)
    cases ih with
    | listed he => cases he.symm.trans hr
    | file _ habsolute => exact Path.isAbsolute_of_parent? habsolute (hdirectory.symm.trans hq)

/-- A specifier is listed below names only if it starts like one of them. -/
theorem isAbsolute_of_isExternal {external : List String} {specifier : String}
    (hbare : ∀ e ∈ external, e ≠ "" ∧ (⟨e⟩ : Path).isAbsolute = false)
    (h : isExternal specifier external = true) : (⟨specifier⟩ : Path).isAbsolute = false := by
  obtain ⟨e, he, hmatch⟩ := isExternal_iff.mp h
  obtain ⟨hne, habsolute⟩ := hbare e he
  rcases hmatch with rfl | ⟨rest, rfl⟩
  · exact habsolute
  · have hnil : e.toList ≠ [] := fun hnil => hne (String.toList_injective hnil)
    rw [← habsolute, Path.isAbsolute, Path.isAbsolute, String.toList_append,
      String.toList_append, List.append_assoc, List.head?_append_of_ne_nil _ hnil]

/-- When a build starts from an absolute directory and no listed specifier is empty or starts with
a slash, every identity has one flag. -/
theorem oneFlag_of_bare (hd : directory.isAbsolute = true)
    (hbare : ∀ e ∈ o.external, e ≠ "" ∧ (⟨e⟩ : Path).isAbsolute = false) :
    (o.plan {} files).OneFlag directory entries := by
  have hlisted : ∀ r r' : Resolution, isExternal r.id.path o.external = true →
      r'.id.asPath.isAbsolute = true → r.id ≠ r'.id := by
    intro r r' hr hr' hid
    rw [← hid] at hr'
    cases hr'.symm.trans (isAbsolute_of_isExternal hbare hr)
  intro r r' hr hr' hid
  cases placed_of_needs hd hr with
  | listed he hl =>
    cases placed_of_needs hd hr' with
    | listed he' => rw [he, he']
    | file _ ha => exact absurd hid (hlisted r r' hl ha)
  | file he ha =>
    cases placed_of_needs hd hr' with
    | listed _ hl => exact absurd hid.symm (hlisted r' r hl ha)
    | file he' => rw [he, he']

end BuildOptions

end BundleGraph
