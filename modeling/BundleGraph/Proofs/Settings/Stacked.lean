import BundleGraph.Proofs.Json.RoundTrip
import BundleGraph.Proofs.Settings.Sources
import Mathlib.Data.List.Induction

/-!
# Layers of settings laid over each other

Settings are read from what stands under their names when the layers are laid over each other.
What reads as a setting other than the loaders is no object, so it was not merged: it comes from
the variable that names the setting, or else from the file, or else from the defaults.  The loaders
are merged entry by entry.

## Main definitions

* `Settings.stacked` — what stands under a key when the layers are laid over each other.
* `Settings.ReadFrom` — settings are read from what stands under their names, and
  `Settings.ofLayers?_iff` says that they are read from the layers so.
* `Settings.last?` and `Settings.chosen?` — what counts for a setting other than the loaders, and
  `Settings.Reads.stacked_eq` and `Settings.Reads.chosen?_eq` say that it is read.
* `Settings.loaders_iff` — the loaders that are read.
-/

namespace BundleGraph

open Json JsonForm

/-! ## Reading tables -/

section
variable {α β : Type} {f : α → Option β} {as : List (String × α)} {bs : List (String × β)}

theorem lookup_of_allOf (h : allOf (fun e => (f e.2).map (e.1, ·)) as = some bs) (k : String) :
    (lookup k as).map f = (lookup k bs).map some := by
  induction as generalizing bs with
  | nil =>
    cases h
    rfl
  | cons a as ih =>
    rw [allOf] at h
    split at h
    · rename_i b bs' hb hbs
      cases h
      obtain ⟨c, hc, rfl⟩ := Option.map_eq_some_iff.mp hb
      rw [lookup_cons, lookup_cons]
      by_cases hk : a.1 = k
      · simp [hk, hc]
      · simp [hk, ih hbs]
    · cases h

theorem exists_allOf (h : ∀ a ∈ as, (f a.2).isSome = true) :
    ∃ bs, allOf (fun e => (f e.2).map (e.1, ·)) as = some bs := by
  induction as with
  | nil => exact ⟨[], rfl⟩
  | cons a as ih =>
    obtain ⟨ha, has⟩ := List.forall_mem_cons.mp h
    obtain ⟨b, hb⟩ := Option.isSome_iff_exists.mp ha
    obtain ⟨bs, hbs⟩ := ih has
    exact ⟨(a.1, b) :: bs, by rw [allOf, hb, hbs]; rfl⟩

end

/-- A table is read from an object that has under each key what reads as its entry there. -/
theorem Table.ofJson?_obj_iff {α : Type} [JsonForm α] {fields : List (String × Json)}
    {entries : List (String × α)} (h : Increasing fields) :
    ofJson? (.obj fields) = some (Table.mk entries) ↔
      Increasing entries ∧ ∀ k, (lookup k fields).map ofJson? = (lookup k entries).map some := by
  have hread : ofJson? (.obj fields) = some (Table.mk entries) ↔
      allOf (fun e => (ofJson? e.2).map (e.1, ·)) fields = some entries := by
    change Option.map Table.mk _ = _ ↔ _
    simp [Option.map_eq_some_iff]
  rw [hread]
  constructor
  · intro hall
    exact ⟨h.of_map_fst (map_fst_of_allOf hall), lookup_of_allOf hall⟩
  · rintro ⟨hentries, hlookup⟩
    have hsome : ∀ e ∈ fields, (ofJson? e.2 : Option α).isSome = true := by
      intro e he
      have hk := hlookup e.1
      rw [h.lookup_eq_some_iff.mpr he] at hk
      obtain ⟨b, -, hb⟩ := Option.map_eq_some_iff.mp hk.symm
      rw [← hb]
      rfl
    obtain ⟨bs, hbs⟩ := exists_allOf hsome
    have hbs' : Increasing bs := h.of_map_fst (map_fst_of_allOf hbs)
    have heq : bs = entries := by
      refine hbs'.ext hentries fun k => ?_
      have hk := (lookup_of_allOf hbs k).symm.trans (hlookup k)
      exact Option.map_injective (Option.some_injective _) hk
    rw [hbs, heq]

namespace Settings

variable {α : Type} {file file' : Json} {env : Environment} {k : String} {v : Json}
variable {fields : List (String × Json)} {s : Settings}

/-! ## Variables -/

/-- What a variable sets under a key. -/
def setUnder? (k : String) (e : String × String) : Option Json :=
  match Variable.keys? variablePrefix e.1 with
  | some (l :: ls) => if l = k then some (Variable.nest (Variable.valueOf e.2) ls) else none
  | _ => none

theorem splitDots_ne_nil (cs : List Char) : Variable.splitDots cs ≠ [] := by
  cases cs with
  | nil => exact List.cons_ne_nil _ _
  | cons c cs =>
    rw [Variable.splitDots]
    split
    · exact List.cons_ne_nil _ _
    · split <;> exact List.cons_ne_nil _ _

/-- The name of a variable does not stand for no key at all. -/
theorem keys?_ne_nil (lead name : String) : Variable.keys? lead name ≠ some [] := by
  intro h
  simp only [Variable.keys?] at h
  split at h
  · split at h
    · cases h
    · exact splitDots_ne_nil _ (List.map_eq_nil_iff.mp (Option.some.inj h))
  · cases h

theorem concrete_nest (h : v.Concrete) (keys : List String) : (Variable.nest v keys).Concrete := by
  induction keys with
  | nil => exact h
  | cons k keys ih => exact .obj (List.pairwise_singleton _ _) (List.forall_mem_singleton.mpr ih)

/-- What a variable sets is laid over the layer under its first key. -/
theorem overlay_spec {layer : Json} (hc : layer.Concrete) (ho : layer.IsObject)
    (e : String × String) :
    (overlay layer e).Concrete ∧ (overlay layer e).IsObject ∧
      ∀ k, (overlay layer e).get? k = stack (layer.get? k) (setUnder? k e) := by
  rw [overlay]
  simp only [setUnder?]
  cases hkeys : Variable.keys? variablePrefix e.1 with
  | none => exact ⟨hc, ho, fun k => (stack_none _).symm⟩
  | some keys =>
    cases keys with
    | nil => exact absurd hkeys (keys?_ne_nil _ _)
    | cons l ls =>
      have hnest := concrete_nest (Variable.concrete_valueOf e.2) (l :: ls)
      have hobject : (Variable.nest (Variable.valueOf e.2) (l :: ls)).IsObject := ⟨_, rfl⟩
      refine ⟨hc.merge hnest, isObject_merge.mpr hobject, fun k => ?_⟩
      rw [get?_merge hobject hnest]
      congr 1
      change lookup k [(l, _)] = _
      rw [lookup_cons, lookup_nil]

theorem variableLayer_append_singleton (env : Environment) (e : String × String) :
    variableLayer (env ++ [e]) = overlay (variableLayer env) e := by
  simp [variableLayer]

theorem variableLayer_spec (env : Environment) :
    (variableLayer env).Concrete ∧ (variableLayer env).IsObject := by
  induction env using List.reverseRecOn with
  | nil => exact ⟨.obj .nil nofun, ⟨[], rfl⟩⟩
  | append_singleton env e ih =>
    rw [variableLayer_append_singleton]
    obtain ⟨hc, ho, -⟩ := overlay_spec ih.1 ih.2 e
    exact ⟨hc, ho⟩

theorem get?_variableLayer_append (env : Environment) (e : String × String) (k : String) :
    (variableLayer (env ++ [e])).get? k = stack ((variableLayer env).get? k) (setUnder? k e) := by
  obtain ⟨hc, ho⟩ := variableLayer_spec env
  rw [variableLayer_append_singleton, (overlay_spec hc ho e).2.2]

/-- The text of the last variable that names a setting. -/
def named? (env : Environment) (k : String) : Option String :=
  (env.reverse.find? fun e => Variable.keys? variablePrefix e.1 == some [k]).map Prod.snd

theorem named?_append_singleton (env : Environment) (e : String × String) (k : String) :
    named? (env ++ [e]) k =
      if Variable.keys? variablePrefix e.1 = some [k] then some e.2 else named? env k := by
  rw [named?, List.reverse_append, List.reverse_singleton, List.singleton_append, List.find?_cons]
  by_cases h : Variable.keys? variablePrefix e.1 = some [k]
  · simp [h]
  · rw [if_neg h, beq_eq_false_iff_ne.mpr h, named?]

/-- If nothing is set under a key, no variable names it; and if no object is, then it is the value
of the last variable that does. -/
theorem named?_spec (env : Environment) (k : String)
    (h : ∀ v ∈ (variableLayer env).get? k, ¬ v.IsObject) :
    (named? env k).map Variable.valueOf = (variableLayer env).get? k := by
  induction env using List.reverseRecOn with
  | nil => rfl
  | append_singleton env e ih =>
    rw [get?_variableLayer_append] at h ⊢
    rw [named?_append_singleton]
    cases hset : setUnder? k e with
    | none =>
      have hne : Variable.keys? variablePrefix e.1 ≠ some [k] := by
        intro hkeys
        simp [setUnder?, hkeys] at hset
      rw [hset, stack_none] at h
      rw [if_neg hne, stack_none]
      exact ih h
    | some w =>
      obtain ⟨u, hu, hobject⟩ := exists_stack_some ((variableLayer env).get? k) w
      rw [hset, hu] at h
      have hw : ¬ w.IsObject := fun hw => h u rfl (hobject.mpr hw)
      -- What is set under more keys than one is an object.
      have hkeys : Variable.keys? variablePrefix e.1 = some [k] ∧ w = Variable.valueOf e.2 := by
        rw [setUnder?] at hset
        split at hset
        · rename_i l ls hkeys
          split at hset
          · rename_i hl
            cases hset
            cases ls with
            | nil => exact ⟨hl ▸ hkeys, rfl⟩
            | cons l' ls => exact absurd ⟨_, rfl⟩ hw
          · cases hset
        · cases hset
      rw [if_pos hkeys.1, stack_of_not_isObject _ hw, hkeys.2]
      rfl

/-! ## Layers laid over each other -/

/-- What stands under a key when a file and variables are laid over the defaults. -/
def stacked (file : Json) (env : Environment) (k : String) : Option Json :=
  stack (stack (defaultLayer.get? k) (file.get? k)) ((variableLayer env).get? k)

/-- Settings other than the loaders are read from what stands under their names. -/
structure ReadPlain (under : String → Option Json) (s : Settings) : Prop where
  entries : defaultedField [] (.ofEntry (under "entries")) = some s.entries
  bundle : defaultedField true (.ofEntry (under "bundle")) = some s.bundle
  outfile : omissibleField (.ofEntry (under "outfile")) = some s.outfile
  outdir : omissibleField (.ofEntry (under "outdir")) = some s.outdir
  format : defaultedField .esm (.ofEntry (under "format")) = some s.format
  platform : defaultedField .browser (.ofEntry (under "platform")) = some s.platform
  external : defaultedField [] (.ofEntry (under "external")) = some s.external
  cwd : omissibleField (.ofEntry (under "cwd")) = some s.cwd
  maxModules : defaultedField defaultMaxModules (.ofEntry (under "max_modules")) =
    some s.maxModules
  logLevel : omissibleField (.ofEntry (under "log_level")) = some s.logLevel

/-- Settings are read from what stands under their names. -/
structure ReadFrom (under : String → Option Json) (s : Settings) : Prop where
  plain : ReadPlain under s
  loaders : defaultedField (Table.mk []) (.ofEntry (under "loaders")) = some (Table.mk s.loaders)

theorem ofJson?_obj_iff :
    ofJson? (.obj fields) = some s ↔ ReadFrom (fun k => lookup k fields) s := by
  simp only [ofJson?, names, slots_obj, List.map_cons, List.map_nil, Option.bind_eq_bind,
    Option.bind_eq_some_iff]
  constructor
  · rintro ⟨entries, h₁, bundle, h₂, outfile, h₃, outdir, h₄, format, h₅, platform, h₆, external,
      h₇, ⟨loaders⟩, h₈, cwd, h₉, maxModules, h₁₀, logLevel, h₁₁, heq⟩
    cases heq
    exact ⟨⟨h₁, h₂, h₃, h₄, h₅, h₆, h₇, h₉, h₁₀, h₁₁⟩, h₈⟩
  · rintro ⟨⟨h₁, h₂, h₃, h₄, h₅, h₆, h₇, h₉, h₁₀, h₁₁⟩, h₈⟩
    exact ⟨_, h₁, _, h₂, _, h₃, _, h₄, _, h₅, _, h₆, _, h₇, _, h₈, _, h₉, _, h₁₀, _, h₁₁, rfl⟩

theorem concrete_defaultLayer : defaultLayer.Concrete := by
  refine concrete_ofFields ?_
  simp only [entryOf, List.append_nil, List.cons_append, List.nil_append, List.forall_mem_cons]
  exact ⟨.arr nofun, .bool true, .str "esm", .str "browser", .arr nofun, .obj .nil nofun, .num _,
    nofun⟩

theorem isObject_defaultLayer : defaultLayer.IsObject := ⟨_, rfl⟩

/-- The defaults are read from their layer. -/
theorem readFrom_defaultLayer : ReadFrom defaultLayer.get? {} := by
  obtain ⟨fields, hfields⟩ := isObject_defaultLayer
  have hread : ofJson? defaultLayer = some ({} : Settings) := ofJson?_toJson .nil
  rw [hfields] at hread ⊢
  exact ofJson?_obj_iff.mp hread

/-- Settings are read from the layers laid over each other. -/
theorem ofLayers?_iff (hc : file.Concrete) (ho : file.IsObject) :
    ofLayers? [file, variableLayer env] = some s ↔ ReadFrom (stacked file env) s := by
  obtain ⟨hcv, hov⟩ := variableLayer_spec env
  obtain ⟨fields, hfields⟩ : ((defaultLayer.merge file).merge (variableLayer env)).IsObject :=
    isObject_merge.mpr hov
  have hunder : (fun k => lookup k fields) = stacked file env := by
    funext k
    change (Json.obj fields).get? k = _
    rw [← hfields, get?_merge hov hcv, get?_merge ho hc, stacked]
  rw [ofLayers?, List.foldl_cons, List.foldl_cons, List.foldl_nil, hfields, ofJson?_obj_iff,
    hunder]

/-! ## Settings other than the loaders -/

/-- A reader of a setting other than the loaders: it reads no object, and without the setting it
reads the default. -/
structure Reads (k : String) (read : Slot → Option α) : Prop where
  mem : k ∈ names
  plain : k ≠ "loaders"
  object : ∀ v : Json, v.Concrete → v.IsObject → read (.given v) = none
  default : read (.ofEntry (defaultLayer.get? k)) = read .absent

/-- What the last layer that has a setting says of it; the defaults do not count. -/
def last? (file : Json) (env : Environment) (k : String) : Option Json :=
  ((variableLayer env).get? k).or (file.get? k)

/-- What counts for a setting other than the loaders: the value of the last variable that names
it, or else what a file has. -/
def chosen? (file : Json) (env : Environment) (k : String) : Option Json :=
  ((named? env k).map Variable.valueOf).or (file.get? k)

/-- No object without `null` is read as a value of the type. -/
def Flat (α : Type) [JsonForm α] : Prop :=
  ∀ v : Json, v.Concrete → v.IsObject → (ofJson? v : Option α) = none

theorem flat_of_obj [JsonForm α] (h : ∀ fields, (ofJson? (.obj fields) : Option α) = none) :
    Flat α := by
  rintro v - ⟨fields, rfl⟩
  exact h fields

/-- A name is read from an object only if that has a `null` in it. -/
theorem ofName?_of_isObject {named : String → Option α} (hc : v.Concrete) (ho : v.IsObject) :
    ofName? named v = none := by
  obtain ⟨fields, rfl⟩ := ho
  unfold ofName?
  split
  · rename_i heq
    cases heq
  · rename_i heq
    cases heq
    exact absurd rfl (hc.of_mem List.mem_cons_self).ne_null
  · rfl

theorem flat_outputFormat : Flat OutputFormat := fun _ hc ho => ofName?_of_isObject hc ho

theorem flat_platform : Flat Platform := fun _ hc ho => ofName?_of_isObject hc ho

theorem reads_defaultedField [JsonForm α] {d : α} (hk : k ∈ names ∧ k ≠ "loaders") (h : Flat α)
    (hdefault : defaultedField d (.ofEntry (defaultLayer.get? k)) = some d) :
    Reads k (defaultedField d) :=
  ⟨hk.1, hk.2, h, hdefault⟩

theorem reads_omissibleField [JsonForm α] (hk : k ∈ names ∧ k ≠ "loaders") (h : Flat α)
    (hdefault : omissibleField (.ofEntry (defaultLayer.get? k)) = some (none : Option α)) :
    Reads k (omissibleField : Slot → Option (Option α)) := by
  refine ⟨hk.1, hk.2, fun v hc ho => ?_, hdefault⟩
  have hnone := h v hc ho
  obtain ⟨fields, rfl⟩ := ho
  exact Option.map_eq_none_iff.mpr hnone

/-- What is read of one thing is read of another, if each reader of a setting does so. -/
theorem ReadPlain.imp {under under' : String → Option Json} (h : ReadPlain under s)
    (himp : ∀ {β : Type} {read : Slot → Option β} {k : String}, Reads k read →
      ∀ b, read (.ofEntry (under k)) = some b → read (.ofEntry (under' k)) = some b) :
    ReadPlain under' s := by
  have hd := readFrom_defaultLayer.plain
  have hbool : Flat Bool := flat_of_obj fun _ => rfl
  have hnat : Flat Nat := flat_of_obj fun _ => rfl
  have hstring : Flat String := flat_of_obj fun _ => rfl
  have hstrings : Flat (List String) := flat_of_obj fun _ => rfl
  have hpath : Flat Path := flat_of_obj fun _ => rfl
  exact {
    entries := himp (reads_defaultedField (by decide) hstrings hd.entries) _ h.entries
    bundle := himp (reads_defaultedField (by decide) hbool hd.bundle) _ h.bundle
    outfile := himp (reads_omissibleField (by decide) hpath hd.outfile) _ h.outfile
    outdir := himp (reads_omissibleField (by decide) hpath hd.outdir) _ h.outdir
    format := himp (reads_defaultedField (by decide) flat_outputFormat hd.format) _ h.format
    platform := himp (reads_defaultedField (by decide) flat_platform hd.platform) _ h.platform
    external := himp (reads_defaultedField (by decide) hstrings hd.external) _ h.external
    cwd := himp (reads_omissibleField (by decide) hpath hd.cwd) _ h.cwd
    maxModules := himp (reads_defaultedField (by decide) hnat hd.maxModules) _ h.maxModules
    logLevel := himp (reads_omissibleField (by decide) hstring hd.logLevel) _ h.logLevel }

theorem concrete_stack_defaultLayer (hc : file.Concrete) :
    ∀ w ∈ stack (defaultLayer.get? k) (file.get? k), w.Concrete :=
  concrete_stack (concrete_of_get? concrete_defaultLayer) (concrete_of_get? hc)

theorem concrete_get?_variableLayer : ∀ w ∈ (variableLayer env).get? k, w.Concrete :=
  concrete_of_get? (variableLayer_spec env).1

section
variable {read : Slot → Option α} {x : Option Json}

/-- Of values that are laid over each other the upper one is read, if any. -/
theorem Reads.stack_some (hr : Reads k read) (hx : ∀ w ∈ x, w.Concrete) (hv : v.Concrete) :
    read (.ofEntry (stack x (some v))) = read (.given v) := by
  by_cases ho : v.IsObject
  · obtain ⟨w, hw, hobject⟩ := exists_stack_some x v
    have hcw : w.Concrete := concrete_stack hx (fun u hu => Option.some.inj hu ▸ hv) w hw
    rw [hw, hr.object v hv ho]
    exact hr.object w hcw (hobject.mpr ho)
  · rw [stack_of_not_isObject x ho]
    rfl

/-- A setting is read from the last layer that has it. -/
theorem Reads.stacked_eq (hr : Reads k read) (hc : file.Concrete) :
    read (.ofEntry (stacked file env k)) = read (.ofEntry (last? file env k)) := by
  rw [stacked, last?]
  cases hvar : (variableLayer env).get? k with
  | some v =>
    exact hr.stack_some (concrete_stack_defaultLayer hc) (concrete_get?_variableLayer v hvar)
  | none =>
    rw [stack_none, Option.none_or]
    cases hfile : file.get? k with
    | some v =>
      exact hr.stack_some (concrete_of_get? concrete_defaultLayer) (concrete_of_get? hc v hfile)
    | none =>
      rw [stack_none]
      exact hr.default

/-- What is read of a setting that variables set is the value of the last one that names it. -/
theorem Reads.chosen?_eq (hr : Reads k read) {a : α}
    (h : read (.ofEntry (last? file env k)) = some a) :
    chosen? file env k = last? file env k := by
  have hnamed : (named? env k).map Variable.valueOf = (variableLayer env).get? k := by
    refine named?_spec env k fun v hv ho => ?_
    rw [last?, hv, Option.some_or] at h
    cases (hr.object v (concrete_get?_variableLayer v hv) ho).symm.trans h
  rw [chosen?, hnamed, last?]

end

/-- If a variable names a setting, then variables say something of it. -/
theorem isSome_get?_variableLayer (h : (named? env k).isSome = true) :
    ((variableLayer env).get? k).isSome = true := by
  cases hvar : (variableLayer env).get? k with
  | some v => rfl
  | none =>
    have hnamed := named?_spec env k fun v hv => nomatch hvar.symm.trans hv
    rw [hvar, Option.map_eq_none_iff] at hnamed
    rw [hnamed] at h
    cases h

/-! ## Loaders -/

/-- The kind that a layer has for an extension. -/
def loaderOf (layer : Json) (ext : String) : Option Json :=
  (layer.get? "loaders").bind (·.get? ext)

/-- Of two texts laid over each other the upper one is read. -/
theorem ofJson?_stack (x y : Option Json) :
    (stack x y).map (ofJson? : Json → Option String) = (y.or x).map ofJson? := by
  cases y with
  | none => rw [stack_none, Option.none_or]
  | some v =>
    by_cases ho : v.IsObject
    · obtain ⟨w, hw, hobject⟩ := exists_stack_some x v
      obtain ⟨fields, rfl⟩ := hobject.mpr ho
      obtain ⟨upper, rfl⟩ := ho
      rw [hw]
      rfl
    · rw [stack_of_not_isObject x ho, Option.some_or]

theorem get?_defaultLayer_loaders : defaultLayer.get? "loaders" = some (.obj []) := by
  change lookup _ (sortFields _) = _
  rw [lookup_sortFields]
  rfl

/-- The defaults have no loaders. -/
theorem get?_stack_defaults (hc : file.Concrete) (ext : String) :
    (stack (defaultLayer.get? "loaders") (file.get? "loaders")).bind (·.get? ext) =
      loaderOf file ext := by
  rw [get?_defaultLayer_loaders, loaderOf]
  cases hfile : file.get? "loaders" with
  | none => rfl
  | some v =>
    by_cases ho : v.IsObject
    · rw [get?_stack fun w hw => Option.some.inj hw ▸ ⟨concrete_of_get? hc v hfile, ho⟩]
      exact none_stack _
    · rw [stack_of_not_isObject _ ho]

/-- What is laid over each other for the loaders is a table if its upper part is one. -/
theorem isObject_stacked_loaders :
    (∀ v ∈ stacked file env "loaders", v.IsObject) ↔
      ∀ v ∈ last? file env "loaders", v.IsObject := by
  rw [stacked, last?, get?_defaultLayer_loaders]
  cases (variableLayer env).get? "loaders" with
  | some v =>
    rw [isObject_stack, Option.some_or]
    exact ⟨fun h w hw => Option.some.inj hw ▸ h, fun h => h v rfl⟩
  | none =>
    rw [stack_none, Option.none_or]
    cases file.get? "loaders" with
    | some v =>
      rw [isObject_stack]
      exact ⟨fun h w hw => Option.some.inj hw ▸ h, fun h => h v rfl⟩
    | none => exact iff_of_true (fun w hw => ⟨[], (Option.some.inj hw).symm⟩) nofun

/-- The loaders are merged entry by entry: those of variables count before those of a file. -/
theorem loaders_iff (hc : file.Concrete) {t : List (String × String)} :
    defaultedField (Table.mk []) (.ofEntry (stacked file env "loaders")) = some (Table.mk t) ↔
      (∀ v ∈ last? file env "loaders", v.IsObject) ∧ Increasing t ∧
        ∀ ext, ((loaderOf (variableLayer env) ext).or (loaderOf file ext)).map ofJson? =
          (lookup ext t).map some := by
  rw [← isObject_stacked_loaders]
  have hconcrete : ∀ v ∈ stacked file env "loaders", v.Concrete :=
    concrete_stack (concrete_stack_defaultLayer hc) concrete_get?_variableLayer
  obtain ⟨v, hv⟩ : ∃ v, stacked file env "loaders" = some v := by
    obtain ⟨w, hw⟩ := exists_some_stack (.obj []) (file.get? "loaders")
    rw [stacked, get?_defaultLayer_loaders, hw]
    exact exists_some_stack w _
  cases v with
  | obj fields =>
    have hobject : ∀ w ∈ (variableLayer env).get? "loaders", w.IsObject := by
      intro w hw
      rw [stacked, hw] at hv
      exact (isObject_stack _).mp fun u hu => ⟨fields, Option.some.inj (hu.symm.trans hv)⟩
    have hlookup : ∀ ext, (lookup ext fields).map (ofJson? : Json → Option String) =
        ((loaderOf (variableLayer env) ext).or (loaderOf file ext)).map ofJson? := by
      intro ext
      have hunder : lookup ext fields =
          (stacked file env "loaders").bind (·.get? ext) := by rw [hv]; rfl
      rw [hunder, stacked,
        get?_stack fun w hw => ⟨concrete_get?_variableLayer w hw, hobject w hw⟩,
        get?_stack_defaults hc, ofJson?_stack]
      rfl
    have hfields : Increasing fields := (hconcrete _ hv).increasing
    rw [hv]
    refine (Table.ofJson?_obj_iff hfields).trans ?_
    simp only [hlookup]
    exact ⟨fun h => ⟨fun w hw => ⟨fields, (Option.some.inj hw).symm⟩, h⟩, And.right⟩
  | _ =>
    rw [hv]
    refine iff_of_false nofun fun h => ?_
    obtain ⟨fields, hfields⟩ := h.1 _ rfl
    cases hfields

end Settings

end BundleGraph
