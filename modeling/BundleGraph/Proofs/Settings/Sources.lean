import BundleGraph.Settings.Layers
import BundleGraph.Proofs.Json.Merge

/-!
# What layers are read from

Neither a document nor the text of a variable can say `null`, and the tables that are read from
them have their keys in order.  Each reader is gone through once, with what holds of everything
that it reads.

## Main definitions

* `Gives` — what holds of everything that a reader reads.
* `Toml.concrete_of_parse?` — the value of a document is concrete, and a table.
* `Variable.concrete_valueOf` — the value of a variable is concrete.
-/

namespace BundleGraph

open Json

/-! ## Readers -/

section
variable {α β : Type}

/-- Everything that the reader reads satisfies `P`. -/
def Gives (m : StateT (List Char) Option α) (P : α → Prop) : Prop :=
  ∀ cs a rest, m cs = some (a, rest) → P a

variable {m : StateT (List Char) Option α} {f : α → StateT (List Char) Option β}
  {P : α → Prop} {Q : β → Prop}

theorem Gives.any (m : StateT (List Char) Option α) : Gives m fun _ => True :=
  fun _ _ _ _ => trivial

theorem Gives.pure {a : α} (h : P a) : Gives (pure a) P := by
  intro cs b rest hread
  cases hread
  exact h

theorem Gives.failure : Gives (failure : StateT (List Char) Option α) P :=
  fun _ _ _ hread => nomatch hread

/-- What is read by one reader after the other is read by the second one. -/
theorem Gives.bind (hm : Gives m P) (hf : ∀ a, P a → Gives (f a) Q) : Gives (m >>= f) Q := by
  intro cs b rest hread
  change ((m cs).bind fun p => f p.1 p.2) = some (b, rest) at hread
  obtain ⟨⟨a, cs'⟩, ha, hb⟩ := Option.bind_eq_some_iff.mp hread
  exact hf a (hm cs a cs' ha) cs' b rest hb

/-- A reader whose value does not count goes first. -/
theorem Gives.andThen (m : StateT (List Char) Option α) (hf : ∀ a, Gives (f a) Q) :
    Gives (m >>= f) Q :=
  (Gives.any m).bind fun a _ => hf a

theorem Gives.ite {c : Prop} [Decidable c] {m' : StateT (List Char) Option α} (h : Gives m P)
    (h' : Gives m' P) : Gives (if c then m else m') P := by
  by_cases hc : c
  · rwa [if_pos hc]
  · rwa [if_neg hc]

end

theorem concrete_cons_reverse {v : Json} {done : List Json} (hv : v.Concrete)
    (h : ∀ w ∈ done, w.Concrete) : (Json.arr (v :: done).reverse).Concrete := by
  refine .arr fun w hw => ?_
  rcases List.mem_cons.mp (List.mem_reverse.mp hw) with rfl | hw
  · exact hv
  · exact h w hw

/-! ## Documents -/

namespace Toml

/-- All values in an item are concrete. -/
inductive Item.Concrete : Item → Prop
  | value {v : Json} : v.Concrete → Concrete (.value v)
  | table {origin : Origin} {es : Entries} : (∀ e ∈ es, Concrete e.2) → Concrete (.table origin es)
  | tables {ts : List Entries} : (∀ t ∈ ts, ∀ e ∈ t, Concrete e.2) → Concrete (.tables ts)

/-- All values in the entries of a table are concrete. -/
def Entries.Concrete (es : Entries) : Prop :=
  ∀ e ∈ es, e.2.Concrete

theorem entriesJson_eq (es : Entries) : entriesJson es = es.map fun e => (e.1, e.2.toJson) := by
  induction es with
  | nil => rfl
  | cons e es ih => rw [entriesJson, List.map_cons, ih]

theorem elementsJson_eq (ts : List Entries) :
    elementsJson ts = ts.map fun t => .ofFields (entriesJson t) := by
  induction ts with
  | nil => rfl
  | cons t ts ih => rw [elementsJson, List.map_cons, ih]

theorem concrete_ofFields_entriesJson {es : Entries} (h : ∀ e ∈ es, e.2.toJson.Concrete) :
    (Json.ofFields (entriesJson es)).Concrete := by
  refine concrete_ofFields fun e he => ?_
  rw [entriesJson_eq] at he
  obtain ⟨d, hd, rfl⟩ := List.mem_map.mp he
  exact h d hd

theorem Item.Concrete.toJson {i : Item} (h : i.Concrete) : i.toJson.Concrete := by
  induction h with
  | value hv =>
    rw [Item.toJson]
    exact hv
  | table _ ih =>
    rw [Item.toJson]
    exact concrete_ofFields_entriesJson ih
  | tables _ ih =>
    rw [Item.toJson, elementsJson_eq]
    refine .arr fun v hv => ?_
    obtain ⟨t, ht, rfl⟩ := List.mem_map.mp (List.mem_reverse.mp hv)
    exact concrete_ofFields_entriesJson (ih t ht)

theorem Entries.Concrete.ofFields {es : Entries} (h : es.Concrete) :
    (Json.ofFields (entriesJson es)).Concrete :=
  concrete_ofFields_entriesJson fun e he => (h e he).toJson

section
variable {es es' : Entries} {k : String} {i : Item}

theorem Entries.concrete_nil : Entries.Concrete [] :=
  fun _ he => nomatch he

theorem Entries.Concrete.put (h : es.Concrete) (hi : i.Concrete) : (put k i es).Concrete := by
  induction es with
  | nil => exact List.forall_mem_singleton.mpr hi
  | cons e es ih =>
    obtain ⟨he, hes⟩ := List.forall_mem_cons.mp h
    rw [Toml.put]
    split
    · exact List.forall_mem_cons.mpr ⟨hi, hes⟩
    · exact List.forall_mem_cons.mpr ⟨he, ih hes⟩

theorem Entries.Concrete.of_lookup (h : es.Concrete) (hk : lookup k es = some i) : i.Concrete :=
  h _ (mem_of_lookup hk)

/-- Entries stay concrete where the change of the table that is altered keeps them so. -/
theorem Entries.Concrete.alter {dotted : Bool} {change : Origin → Entries → Option Entries}
    (hchange : ∀ origin es es', es.Concrete → change origin es = some es' → es'.Concrete)
    {path : List String} {origin : Origin} (h : es.Concrete)
    (ha : alter dotted change path origin es = some es') : es'.Concrete := by
  induction path generalizing origin es es' with
  | nil => exact hchange origin es es' h ha
  | cons k path ih =>
    rw [Toml.alter] at ha
    split at ha
    · obtain ⟨sub, hsub, rfl⟩ := Option.map_eq_some_iff.mp ha
      exact h.put (.table (ih Entries.concrete_nil hsub))
    · rename_i origin' inner hlookup
      split at ha
      · cases ha
      · obtain ⟨sub, hsub, rfl⟩ := Option.map_eq_some_iff.mp ha
        cases h.of_lookup hlookup with
        | table hinner => exact h.put (.table (ih hinner hsub))
    · rename_i latest earlier hlookup
      obtain ⟨sub, hsub, rfl⟩ := Option.map_eq_some_iff.mp ha
      cases h.of_lookup hlookup with
      | tables hall =>
        obtain ⟨hlatest, hearlier⟩ := List.forall_mem_cons.mp hall
        exact h.put (.tables (List.forall_mem_cons.mpr ⟨ih hlatest hsub, hearlier⟩))
    · cases ha
    · cases ha

theorem Entries.Concrete.openTable {path : List String} (h : es.Concrete)
    (ho : openTable path k es = some es') : es'.Concrete := by
  refine Entries.Concrete.alter (fun origin es es' hes hchange => ?_) h ho
  split at hchange
  · cases hchange
    exact hes.put (.table Entries.concrete_nil)
  · rename_i sub hlookup
    cases hchange
    cases hes.of_lookup hlookup with
    | table hsub => exact hes.put (.table hsub)
  · cases hchange

theorem Entries.Concrete.openElement {path : List String} (h : es.Concrete)
    (ho : openElement path k es = some es') : es'.Concrete := by
  refine Entries.Concrete.alter (fun origin es es' hes hchange => ?_) h ho
  split at hchange
  · cases hchange
    exact hes.put (.tables (List.forall_mem_singleton.mpr Entries.concrete_nil))
  · rename_i ts hlookup
    cases hchange
    cases hes.of_lookup hlookup with
    | tables hts => exact hes.put (.tables (List.forall_mem_cons.mpr ⟨Entries.concrete_nil, hts⟩))
  · cases hchange

theorem Entries.Concrete.assign {path : List String} {v : Json} (h : es.Concrete)
    (hv : v.Concrete) (ha : assign path k v es = some es') : es'.Concrete := by
  refine Entries.Concrete.alter (fun origin es es' hes hchange => ?_) h ha
  split at hchange
  · cases hchange
  · split at hchange
    · cases hchange
      exact hes.put (.value hv)
    · cases hchange

theorem Entries.Concrete.assignBelow {current path : List String} {v : Json} (h : es.Concrete)
    (hv : v.Concrete) (ha : assignBelow current path k v es = some es') : es'.Concrete :=
  Entries.Concrete.alter (fun _ _ _ hes hchange => hes.assign hv hchange) h ha

end

/-! ### Values -/

theorem concrete_inRange? {n : Int} : ∀ v ∈ inRange? n, v.Concrete := by
  intro v hv
  rw [inRange?] at hv
  split at hv
  · cases hv
    exact .num _
  · cases hv

theorem concrete_integer? (word : List Char) : ∀ v ∈ integer? word, v.Concrete := by
  intro v hv
  unfold integer? at hv
  split at hv
  all_goals
    obtain ⟨ds, -, hv⟩ := Option.bind_eq_some_iff.mp hv
    exact concrete_inRange? v hv

theorem concrete_finite? (x : Float) : ∀ v ∈ finite? x, v.Concrete := by
  intro v hv
  rw [finite?] at hv
  split at hv
  · cases hv
  · cases hv
    exact .num _

theorem concrete_real? (word : List Char) : ∀ v ∈ real? word, v.Concrete := by
  intro v hv
  simp only [real?] at hv
  split at hv
  · cases hv
    exact .num _
  · split at hv
    · cases hv
      exact .num _
    · split at hv
      · cases hv
      · split at hv
        · cases hv
        · split at hv
          · exact concrete_finite? _ v hv
          · split at hv
            · cases hv
            · obtain ⟨_, -, hv⟩ := Option.bind_eq_some_iff.mp hv
              exact concrete_finite? _ v hv
        · split at hv
          · cases hv
          · obtain ⟨_, -, hv⟩ := Option.bind_eq_some_iff.mp hv
            exact concrete_finite? _ v hv

theorem concrete_dateValue (text : List Char) : (dateValue text).Concrete :=
  .obj (List.pairwise_singleton _ _) (List.forall_mem_singleton.mpr (.str _))

/-- A value that is neither a text nor a list nor a table is concrete. -/
theorem gives_readPlain : Gives readPlain Json.Concrete := by
  refine .andThen _ fun cs => ?_
  split
  · exact .andThen _ fun _ => .pure (concrete_dateValue _)
  · refine .andThen _ fun _ => ?_
    refine .ite (.pure (.bool true)) (.ite (.pure (.bool false)) ?_)
    split
    · rename_i v hv
      rcases Option.or_eq_some_iff.mp hv with hv | ⟨-, hv⟩
      · exact .pure (concrete_integer? _ v hv)
      · exact .pure (concrete_real? _ v hv)
    · exact .failure

/-- What was read of a value so far is concrete. -/
def Part.Concrete : Part → Prop
  | .value => True
  | .items done => ∀ v ∈ done, v.Concrete
  | .fields done => done.Concrete

/-- Values are concrete, by induction on the bound of their parts. -/
theorem gives_readPart (fuel : ℕ) (part : Part) (h : part.Concrete) :
    Gives (readPart fuel part) Json.Concrete := by
  induction fuel generalizing part with
  | zero => exact .failure
  | succ fuel ih =>
    have hvalue : Gives (readPart fuel .value) Json.Concrete := ih .value trivial
    cases part with
    | value =>
      rw [readPart]
      refine .andThen _ fun _ => .ite (.andThen _ fun _ => .pure (.str _)) ?_
      refine .andThen _ fun _ => .ite (.andThen _ fun _ => .andThen _ fun _ => ?_) ?_
      · exact .ite (.pure (.arr nofun)) (ih (.items []) nofun)
      · refine .andThen _ fun _ => .ite (.andThen _ fun _ => .andThen _ fun _ => ?_) gives_readPlain
        exact .ite (.pure (.obj .nil nofun)) (ih (.fields []) Entries.concrete_nil)
    | items done =>
      rw [readPart]
      refine hvalue.bind fun v hv => ?_
      have hmore : Part.Concrete (.items (v :: done)) := List.forall_mem_cons.mpr ⟨hv, h⟩
      have hlist := concrete_cons_reverse hv h
      refine .andThen _ fun _ => .andThen _ fun _ => .ite ?_ ?_
      · exact .andThen _ fun _ => .andThen _ fun _ => .ite (.pure hlist) (ih _ hmore)
      · exact .andThen _ fun _ => .pure hlist
    | fields done =>
      rw [readPart]
      refine .andThen _ fun key => .andThen _ fun _ => .andThen _ fun _ => ?_
      refine hvalue.bind fun v hv => .andThen _ fun _ => ?_
      split
      · exact .failure
      · rename_i es hes
        have hmore : Part.Concrete (.fields es) := Entries.Concrete.assign h hv hes
        refine .andThen _ fun _ => .ite (ih _ hmore) ?_
        exact .andThen _ fun _ => .pure (Entries.Concrete.ofFields hmore)

/-! ### Lines -/

theorem gives_readStatement {d : Document} (h : d.entries.Concrete) :
    Gives (readStatement d) fun d => d.entries.Concrete := by
  rw [readStatement]
  refine .andThen _ fun _ => .ite (.andThen _ fun key => .andThen _ fun _ => ?_) ?_
  · split
    · rename_i es hes
      exact .pure (h.openElement hes)
    · exact .failure
  · refine .andThen _ fun _ => .ite (.andThen _ fun key => .andThen _ fun _ => ?_) ?_
    · split
      · rename_i es hes
        exact .pure (h.openTable hes)
      · exact .failure
    · refine .andThen _ fun key => .andThen _ fun _ => .andThen _ fun _ => ?_
      refine Gives.bind (.andThen _ fun _ => gives_readPart _ .value trivial) fun v hv => ?_
      split
      · rename_i es hes
        exact .pure (h.assignBelow hv hes)
      · exact .failure

theorem gives_readDocument (fuel : ℕ) {d : Document} (h : d.entries.Concrete) :
    Gives (readDocument fuel d) fun d => d.entries.Concrete := by
  induction fuel generalizing d with
  | zero => exact .failure
  | succ fuel ih =>
    rw [readDocument]
    refine .andThen _ fun _ => .andThen _ fun _ => ?_
    split
    · exact .pure h
    · exact .andThen _ fun _ => ih h
    · exact .andThen _ fun _ => ih h
    · refine (gives_readStatement h).bind fun d hd => ?_
      refine .andThen _ fun _ => .andThen _ fun _ => .andThen _ fun _ => ?_
      split
      · exact .pure hd
      · exact .andThen _ fun _ => ih hd
      · exact .failure

/-- The value of a document is a table without `null`. -/
theorem concrete_of_parse? {text : String} {v : Json} (h : parse? text = some v) :
    v.Concrete ∧ v.IsObject := by
  simp only [parse?] at h
  split at h
  · cases h
  · split at h
    · rename_i d rest hd
      cases h
      have hentries := gives_readDocument _ Entries.concrete_nil _ _ _ hd
      exact ⟨hentries.ofFields, ⟨_, rfl⟩⟩
    · cases h

end Toml

/-! ## Variables -/

namespace Variable

theorem concrete_integer? (word : List Char) : ∀ v ∈ integer? word, v.Concrete := by
  intro v hv
  simp only [integer?] at hv
  split at hv
  · cases hv
  · split at hv
    · split at hv
      · cases hv
        exact .num _
      · cases hv
    · split at hv
      · cases hv
        exact .num _
      · cases hv

theorem concrete_real? (word : List Char) : ∀ v ∈ real? word, v.Concrete := by
  intro v hv
  simp only [real?] at hv
  split at hv
  · split at hv
    · cases hv
    · obtain ⟨_, -, rfl⟩ := Option.map_eq_some_iff.mp hv
      exact .num _
  · cases hv

theorem concrete_ofWord (word : List Char) : (ofWord word).Concrete := by
  rw [ofWord]
  cases hv : (real? word).or (integer? word) with
  | none => exact .str _
  | some v =>
    rcases Option.or_eq_some_iff.mp hv with hv | ⟨-, hv⟩
    · exact concrete_real? word v hv
    · exact concrete_integer? word v hv

theorem gives_padded {r : Reader Json} (h : Gives r Json.Concrete) :
    Gives (padded r) Json.Concrete :=
  h.bind fun _ hv => .andThen _ fun _ => .pure hv

theorem gives_readWord : Gives readWord Json.Concrete := by
  refine .andThen _ fun cs => ?_
  split
  · exact .andThen _ fun _ => .pure (.str _)
  · exact .failure
  · exact .andThen _ fun _ => .pure (concrete_ofWord _)

/-- What was read of a value so far is concrete. -/
def Part.Concrete : Part → Prop
  | .value => True
  | .items done => ∀ v ∈ done, v.Concrete
  | .fields done => ∀ e ∈ done, e.2.Concrete

theorem concrete_ofFields_reverse {fields : List (String × Json)}
    (h : ∀ e ∈ fields, e.2.Concrete) : (Json.ofFields fields.reverse).Concrete :=
  concrete_ofFields fun e he => h e (List.mem_reverse.mp he)

theorem gives_readPart (fuel : ℕ) (part : Part) (h : part.Concrete) :
    Gives (readPart fuel part) Json.Concrete := by
  induction fuel generalizing part with
  | zero => exact .failure
  | succ fuel ih =>
    have hvalue : Gives (readPart fuel .value) Json.Concrete := ih .value trivial
    cases part with
    | value =>
      have hitems : Gives (readPart fuel (.items [])) Json.Concrete := ih (.items []) nofun
      have hfields : Gives (readPart fuel (.fields [])) Json.Concrete :=
        ih (.fields []) nofun
      have htext : Gives readText Json.Concrete :=
        .andThen _ fun _ => .andThen _ fun _ => .pure (.str _)
      rw [readPart]
      refine .andThen _ fun _ => .andThen _ fun _ => .ite (gives_padded (.pure (.bool true))) ?_
      refine .andThen _ fun _ => .ite (gives_padded (.pure (.bool false))) ?_
      refine .andThen _ fun _ => .ite (gives_padded hfields) ?_
      refine .andThen _ fun _ => .ite (gives_padded hitems) ?_
      exact .andThen _ fun _ => .ite (gives_padded htext) (gives_padded gives_readWord)
    | items done =>
      rw [readPart]
      refine .andThen _ fun _ => .ite (.pure (.arr fun v hv => h v (List.mem_reverse.mp hv))) ?_
      refine hvalue.bind fun v hv => .andThen _ fun _ => .ite ?_ ?_
      · exact ih (.items (v :: done)) (List.forall_mem_cons.mpr ⟨hv, h⟩)
      · exact .andThen _ fun _ => .pure (concrete_cons_reverse hv h)
    | fields done =>
      rw [readPart]
      refine .andThen _ fun _ => .ite (.pure (concrete_ofFields_reverse h)) ?_
      refine .andThen _ fun _ => .andThen _ fun k => .andThen _ fun _ => .andThen _ fun _ => ?_
      refine hvalue.bind fun v hv => ?_
      have hmore : Part.Concrete (.fields ((k, v) :: done)) := List.forall_mem_cons.mpr ⟨hv, h⟩
      refine .andThen _ fun _ => .ite (ih _ hmore) ?_
      exact .andThen _ fun _ => .pure (concrete_ofFields_reverse hmore)

/-- The value of a text is concrete. -/
theorem concrete_valueOf (text : String) : (valueOf text).Concrete := by
  rw [valueOf]
  split
  · rename_i v hv
    exact gives_readPart _ .value trivial _ _ _ hv
  · exact .str text

end Variable

end BundleGraph
