import BundleGraph.Proofs.Import.Scan

/-!
# Where the imports of a script stand

A tree of a script is found by its position: its number among its siblings, below the numbers of
the trees it stands in.  Parts are kept in the order of the text, so that of two positions the
smaller one comes first in the text, a tree before what stands in it.

The imports of a script are what its trees name, at whatever depth, in this order.  Of each
specifier the first place counts.

## Main definitions

* `Node.children`, `At` — the trees right below a tree, and the trees at any depth.
* `Node.Names` — the import that a tree makes itself.
* `Lists` — records list what is found at positions, in the order of the text.
* `children_induction` — induction over all trees of a script.
* `lists_allImports` — the imports of a list of trees.
* `scan_lists_occurrences` — what the scan of a script lists.
-/

namespace BundleGraph.Script

variable {n m : Node} {ns : List Node} {r : ImportRecord} {rs ss : List ImportRecord}

/-- The trees right below a tree. -/
def Node.children : Node → List Node
  | .name _ => []
  | .string _ => []
  | .importDecl _ _ => []
  | .exportNamed _ _ _ declaration => declaration
  | .exportAll _ _ _ => []
  | .exportDefault value => [value]
  | .importCall source options => source :: options
  | .call callee typeArguments arguments => callee :: (typeArguments ++ arguments)
  | .node _ parts => parts

/-- The numbers that lead to a tree, from the outside in. -/
abbrev Position := List Nat

/-- A tree stands at a position. -/
inductive At : List Node → Position → Node → Prop where
  | top {ns i n} (h : ns[i]? = some n) : At ns [i] n
  | within {ns i n p m} (h : ns[i]? = some n) (hm : At n.children p m) : At ns (i :: p) m

/-- One position comes before another in the text. -/
def Position.Before (p q : Position) : Prop :=
  List.Lex (· < ·) p q

/-- What a tree imports by itself, whatever stands in it. -/
inductive Node.Names : Node → ImportRecord → Prop where
  | static (source) : Names (.importDecl false source) ⟨source, .static⟩
  | reExport (source names declaration) :
    Names (.exportNamed false (some source) names declaration) ⟨source, .reExport⟩
  | reExportAll (source newName) : Names (.exportAll false source newName) ⟨source, .reExport⟩
  | dynamic (s options) : Names (.importCall (.string s) options) ⟨s, .dynamic⟩
  | require (s typeArguments) :
    Names (.call (.name "require") typeArguments [.string s]) ⟨s, .require⟩

/-- An import stands at a position. -/
def Occurs (ns : List Node) (p : Position) (r : ImportRecord) : Prop :=
  ∃ n, At ns p n ∧ n.Names r

/-- What is found at positions, without what comes after another record of its specifier. -/
def FoundFirst (Found : Position → ImportRecord → Prop) (p : Position) (r : ImportRecord) : Prop :=
  Found p r ∧ ∀ q r', Found q r' → r'.specifier = r.specifier → p = q ∨ p.Before q

/-- The records are what is found at positions, in the order of the text. -/
def Lists (Found : Position → ImportRecord → Prop) (rs : List ImportRecord) : Prop :=
  ∃ found : List (Position × ImportRecord), found.Pairwise (fun a b => a.1.Before b.1) ∧
    (∀ p r, (p, r) ∈ found ↔ Found p r) ∧ found.map Prod.snd = rs

/-! ## Positions -/

variable {p q : Position} {i j : Nat}

theorem Position.Before.irrefl (p : Position) : ¬ p.Before p :=
  List.lt_irrefl p

theorem Position.Before.asymm (h : p.Before q) : ¬ q.Before p :=
  List.lt_asymm h

/-- The positions in a list that has one more tree before. -/
def Position.bump : Position → Position
  | [] => []
  | i :: p => (i + 1) :: p

theorem Position.Before.bump (h : p.Before q) : p.bump.Before q.bump := by
  cases h with
  | nil => exact .nil
  | cons h => exact .cons h
  | rel h => exact .rel (Nat.succ_lt_succ h)

theorem At.ne_nil (h : At ns p m) : p ≠ [] := by
  cases h <;> exact List.cons_ne_nil _ _

/-- A tree of a list is the first, or stands in the first, or is a tree of the others. -/
theorem at_cons_iff : At (n :: ns) p m ↔
    (p = [0] ∧ m = n ∨ ∃ q, At n.children q m ∧ p = 0 :: q) ∨
      ∃ q, At ns q m ∧ p = q.bump := by
  constructor
  · rintro (@⟨_, i, _, h⟩ | @⟨_, i, n', q, _, h, hm⟩)
    · cases i with
      | zero => exact .inl (.inl ⟨rfl, (Option.some.inj h).symm⟩)
      | succ i => exact .inr ⟨[i], .top h, rfl⟩
    · cases i with
      | zero =>
        cases h
        exact .inl (.inr ⟨q, hm, rfl⟩)
      | succ i => exact .inr ⟨i :: q, .within h hm, rfl⟩
  · rintro ((⟨rfl, rfl⟩ | ⟨q, hm, rfl⟩) | ⟨q, hm, rfl⟩)
    · exact .top rfl
    · exact .within rfl hm
    · cases hm with
      | top h => exact .top h
      | within h hm => exact .within h hm

mutual

/-- What holds of no trees, and of a list when it holds of what stands in the first and of the
others, holds of all lists. -/
theorem children_induction {P : List Node → Prop} (nil : P [])
    (cons : ∀ n ns, P n.children → P ns → P (n :: ns)) : ∀ ns, P ns
  | [] => nil
  | n :: ns => cons n ns (holds_of_children nil cons n) (children_induction nil cons ns)

theorem holds_of_append {P : List Node → Prop} (nil : P [])
    (cons : ∀ n ns, P n.children → P ns → P (n :: ns)) :
    ∀ ns {ms : List Node}, P ms → P (ns ++ ms)
  | [], _, h => h
  | n :: ns, _, h => cons n _ (holds_of_children nil cons n) (holds_of_append nil cons ns h)

theorem holds_of_children {P : List Node → Prop} (nil : P [])
    (cons : ∀ n ns, P n.children → P ns → P (n :: ns)) : ∀ n : Node, P n.children
  | .name _ => nil
  | .string _ => nil
  | .importDecl _ _ => nil
  | .exportNamed _ _ _ declaration => children_induction nil cons declaration
  | .exportAll _ _ _ => nil
  | .exportDefault value => cons value [] (holds_of_children nil cons value) nil
  | .importCall source options =>
    cons source options (holds_of_children nil cons source) (children_induction nil cons options)
  | .call callee typeArguments arguments =>
    cons callee _ (holds_of_children nil cons callee)
      (holds_of_append nil cons typeArguments (children_induction nil cons arguments))
  | .node _ parts => children_induction nil cons parts

end

/-! ## Lists of what is found -/

section
variable {F G : Position → ImportRecord → Prop}

theorem Lists.congr (h : Lists F rs) (hFG : ∀ p r, F p r ↔ G p r) : Lists G rs := by
  obtain ⟨found, hbefore, hfound, hrs⟩ := h
  exact ⟨found, hbefore, fun p r => (hfound p r).trans (hFG p r), hrs⟩

theorem Lists.append (hF : Lists F rs) (hG : Lists G ss)
    (hFG : ∀ p q r r', F p r → G q r' → p.Before q) :
    Lists (fun p r => F p r ∨ G p r) (rs ++ ss) := by
  obtain ⟨found, hbefore, hfound, rfl⟩ := hF
  obtain ⟨found', hbefore', hfound', rfl⟩ := hG
  refine ⟨found ++ found', ?_, ?_, List.map_append⟩
  · rw [List.pairwise_append]
    refine ⟨hbefore, hbefore', ?_⟩
    rintro ⟨p, r⟩ ha ⟨q, r'⟩ hb
    exact hFG p q r r' ((hfound p r).mp ha) ((hfound' q r').mp hb)
  · intro p r
    rw [List.mem_append, hfound, hfound']

/-- What is found can be given other positions, if they come in the same order. -/
theorem Lists.move (f : Position → Position) (hf : ∀ p q, p.Before q → (f p).Before (f q))
    (h : Lists F rs) : Lists (fun p r => ∃ q, F q r ∧ p = f q) rs := by
  obtain ⟨found, hbefore, hfound, rfl⟩ := h
  refine ⟨found.map fun a => (f a.1, a.2), ?_, ?_, ?_⟩
  · rw [List.pairwise_map]
    exact hbefore.imp fun h => hf _ _ h
  · intro p r
    rw [List.mem_map]
    constructor
    · rintro ⟨⟨q, r⟩, ha, heq⟩
      cases heq
      exact ⟨q, (hfound q r).mp ha, rfl⟩
    · rintro ⟨q, hq, rfl⟩
      exact ⟨(q, r), (hfound q r).mpr hq, rfl⟩
  · rw [List.map_map]
    rfl

theorem Lists.mem_iff (h : Lists F rs) : r ∈ rs ↔ ∃ p, F p r := by
  obtain ⟨found, -, hfound, rfl⟩ := h
  rw [List.mem_map]
  constructor
  · rintro ⟨⟨p, r⟩, ha, rfl⟩
    exact ⟨p, (hfound p r).mp ha⟩
  · rintro ⟨p, hp⟩
    exact ⟨(p, r), (hfound p r).mpr hp, rfl⟩

/-- A record of a list is not seen before and comes first of its specifier. -/
def IsKept (seen : List String) (found : List (Position × ImportRecord))
    (a : Position × ImportRecord) : Prop :=
  a ∈ found ∧ a.2.specifier ∉ seen ∧
    ∀ b ∈ found, b.2.specifier = a.2.specifier → a.1 = b.1 ∨ a.1.Before b.1

section
variable {seen : List String} {a b : Position × ImportRecord}
  {found : List (Position × ImportRecord)}

theorem isKept_cons_of_seen (ha : a.2.specifier ∈ seen) :
    IsKept seen (a :: found) b ↔ IsKept seen found b := by
  constructor
  · rintro ⟨hb, hnew, hfirst⟩
    rcases List.mem_cons.mp hb with rfl | hb
    · exact absurd ha hnew
    · exact ⟨hb, hnew, fun c hc => hfirst c (List.mem_cons_of_mem a hc)⟩
  · rintro ⟨hb, hnew, hfirst⟩
    refine ⟨List.mem_cons_of_mem a hb, hnew, List.forall_mem_cons.mpr ⟨?_, hfirst⟩⟩
    exact fun hspecifier => absurd (hspecifier ▸ ha) hnew

theorem isKept_cons_of_new (ha : a.2.specifier ∉ seen) (hbefore : ∀ c ∈ found, a.1.Before c.1) :
    IsKept seen (a :: found) b ↔ b = a ∨ IsKept (a.2.specifier :: seen) found b := by
  constructor
  · rintro ⟨hb, hnew, hfirst⟩
    rcases List.mem_cons.mp hb with rfl | hb
    · exact .inl rfl
    · have hother : b.2.specifier ≠ a.2.specifier := by
        -- Else the first record would come after one that it comes before.
        intro hspecifier
        rcases hfirst a List.mem_cons_self hspecifier.symm with heq | hba
        · exact Position.Before.irrefl a.1 (heq ▸ hbefore b hb)
        · exact (hbefore b hb).asymm hba
      exact .inr ⟨hb, List.not_mem_cons_of_ne_of_not_mem hother hnew,
        fun c hc => hfirst c (List.mem_cons_of_mem a hc)⟩
  · rintro (rfl | ⟨hb, hnew, hfirst⟩)
    · refine ⟨List.mem_cons_self, ha, List.forall_mem_cons.mpr ⟨fun _ => .inl rfl, ?_⟩⟩
      exact fun c hc _ => .inr (hbefore c hc)
    · obtain ⟨hother, hnew⟩ := not_or.mp (mt List.mem_cons.mpr hnew)
      refine ⟨List.mem_cons_of_mem a hb, hnew, List.forall_mem_cons.mpr ⟨?_, hfirst⟩⟩
      exact fun hspecifier => absurd hspecifier.symm hother

/-- Of records in order, those are kept that come first of their specifier. -/
theorem exists_kept (seen : List String) (h : found.Pairwise fun a b => a.1.Before b.1) :
    ∃ kept : List (Position × ImportRecord), kept.Sublist found ∧
      (∀ b, b ∈ kept ↔ IsKept seen found b) ∧
      kept.map Prod.snd = dropRepeats seen (found.map Prod.snd) := by
  induction found generalizing seen with
  | nil => exact ⟨[], .slnil, by simp [IsKept], rfl⟩
  | cons a found ih =>
    obtain ⟨hbefore, hfound⟩ := List.pairwise_cons.mp h
    rw [List.map_cons, BundleGraph.dropRepeats]
    by_cases ha : a.2.specifier ∈ seen
    · obtain ⟨kept, hsub, hkept, hrs⟩ := ih seen hfound
      refine ⟨kept, .cons a hsub, fun b => ?_, ?_⟩
      · rw [hkept, isKept_cons_of_seen ha]
      · rw [hrs, if_pos (List.contains_iff_mem.mpr ha)]
    · obtain ⟨kept, hsub, hkept, hrs⟩ := ih (a.2.specifier :: seen) hfound
      refine ⟨a :: kept, .cons_cons a hsub, fun b => ?_, ?_⟩
      · rw [List.mem_cons, hkept, isKept_cons_of_new ha hbefore]
      · rw [List.map_cons, hrs, if_neg fun hc => ha (List.contains_iff_mem.mp hc)]

end

/-- Without later repeats, what is listed comes first of its specifier. -/
theorem Lists.dropRepeats (h : Lists F rs) : Lists (FoundFirst F) (dropRepeats [] rs) := by
  obtain ⟨found, hbefore, hfound, rfl⟩ := h
  obtain ⟨kept, hsub, hkept, hrs⟩ := exists_kept [] hbefore
  refine ⟨kept, hbefore.sublist hsub, fun p r => ?_, hrs⟩
  rw [hkept, IsKept, hfound]
  refine and_congr_right fun _ => ?_
  constructor
  · rintro ⟨-, hfirst⟩ q r' hq hspecifier
    exact hfirst (q, r') ((hfound q r').mpr hq) hspecifier
  · intro hfirst
    exact ⟨List.not_mem_nil, fun b hb => hfirst b.1 b.2 ((hfound b.1 b.2).mp hb)⟩

end

/-! ## The imports of trees -/

/-- The imports that are read off a tree itself. -/
def Node.own : Node → List ImportRecord
  | .importDecl typeOnly source => if typeOnly then [] else [⟨source, .static⟩]
  | .exportNamed typeOnly source _ _ => reExport typeOnly source
  | .exportAll _ source _ => [⟨source, .reExport⟩]
  | .importCall source _ => dynamicImport source
  | .call callee _ arguments => requireCall callee arguments
  | _ => []

theorem allImports_append (ns ms : List Node) :
    allImports (ns ++ ms) = allImports ns ++ allImports ms := by
  induction ns with
  | nil => rfl
  | cons n ns ih => rw [List.cons_append, allImports, allImports, ih, List.append_assoc]

/-- The imports of a tree are its own and those of the trees below. -/
theorem imports_eq (n : Node) : imports n = n.own ++ allImports n.children := by
  cases n <;> simp [imports, Node.own, Node.children, allImports, allImports_append]

theorem mem_requireCall_iff {callee : Node} {arguments : List Node} :
    r ∈ requireCall callee arguments ↔
      ∃ s, callee = .name "require" ∧ arguments = [.string s] ∧ r = ⟨s, .require⟩ := by
  unfold requireCall
  split
  · simp
  · rename_i hother
    simp only [List.not_mem_nil, false_iff]
    rintro ⟨s, rfl, rfl, -⟩
    exact hother s rfl rfl

theorem mem_dynamicImport_iff {source : Node} :
    r ∈ dynamicImport source ↔ ∃ s, source = .string s ∧ r = ⟨s, .dynamic⟩ := by
  unfold dynamicImport
  split
  · simp
  · rename_i hother
    simp only [List.not_mem_nil, false_iff]
    rintro ⟨s, rfl, -⟩
    exact hother s rfl

theorem mem_reExport_iff {typeOnly : Bool} {source : Option String} :
    r ∈ reExport typeOnly source ↔
      ∃ s, typeOnly = false ∧ source = some s ∧ r = ⟨s, .reExport⟩ := by
  unfold reExport
  split
  · simp
  · rename_i hother
    simp only [List.not_mem_nil, false_iff]
    rintro ⟨s, rfl, rfl, -⟩
    exact hother s rfl rfl

/-- A tree other than `export type *` names what is read off it. -/
theorem mem_own_iff (hn : ∀ source newName, n ≠ .exportAll true source newName) :
    r ∈ n.own ↔ n.Names r := by
  constructor
  · intro h
    cases n with
    | importDecl typeOnly source =>
      cases typeOnly with
      | true => cases h
      | false =>
        cases List.mem_singleton.mp h
        exact .static source
    | exportNamed typeOnly source names declaration =>
      obtain ⟨s, rfl, rfl, rfl⟩ := mem_reExport_iff.mp h
      exact .reExport s names declaration
    | exportAll typeOnly source newName =>
      cases typeOnly with
      | true => exact absurd rfl (hn source newName)
      | false =>
        cases List.mem_singleton.mp h
        exact .reExportAll source newName
    | importCall source options =>
      obtain ⟨s, rfl, rfl⟩ := mem_dynamicImport_iff.mp h
      exact .dynamic s options
    | call callee typeArguments arguments =>
      obtain ⟨s, rfl, rfl, rfl⟩ := mem_requireCall_iff.mp h
      exact .require s typeArguments
    | name => cases h
    | string => cases h
    | exportDefault => cases h
    | node => cases h
  · rintro ⟨⟩ <;> exact List.mem_singleton.mpr rfl

/-- At most one import is read off a tree. -/
theorem own_eq_nil_or (n : Node) : n.own = [] ∨ ∃ r, n.own = [r] := by
  cases n with
  | importDecl typeOnly source => cases typeOnly <;> simp [Node.own]
  | exportNamed typeOnly source =>
    rw [Node.own]
    unfold reExport
    split <;> simp
  | exportAll => exact .inr ⟨_, rfl⟩
  | importCall source =>
    rw [Node.own]
    unfold dynamicImport
    split <;> simp
  | call callee typeArguments arguments =>
    rw [Node.own]
    unfold requireCall
    split <;> simp
  | name => exact .inl rfl
  | string => exact .inl rfl
  | exportDefault => exact .inl rfl
  | node => exact .inl rfl

/-- What is found at the positions of the first tree, in it, and in the other trees. -/
theorem found_cons_iff : (∃ m, At (n :: ns) p m ∧ r ∈ m.own) ↔
    ((p = [0] ∧ r ∈ n.own) ∨ ∃ q, (∃ m, At n.children q m ∧ r ∈ m.own) ∧ p = 0 :: q) ∨
      ∃ q, (∃ m, At ns q m ∧ r ∈ m.own) ∧ p = q.bump := by
  constructor
  · rintro ⟨m, hm, hr⟩
    rcases at_cons_iff.mp hm with (⟨hp, rfl⟩ | ⟨q, hm, hp⟩) | ⟨q, hm, hp⟩
    · exact .inl (.inl ⟨hp, hr⟩)
    · exact .inl (.inr ⟨q, ⟨m, hm, hr⟩, hp⟩)
    · exact .inr ⟨q, ⟨m, hm, hr⟩, hp⟩
  · rintro ((⟨hp, hr⟩ | ⟨q, ⟨m, hm, hr⟩, hp⟩) | ⟨q, ⟨m, hm, hr⟩, hp⟩)
    · exact ⟨n, at_cons_iff.mpr (.inl (.inl ⟨hp, rfl⟩)), hr⟩
    · exact ⟨m, at_cons_iff.mpr (.inl (.inr ⟨q, hm, hp⟩)), hr⟩
    · exact ⟨m, at_cons_iff.mpr (.inr ⟨q, hm, hp⟩), hr⟩

/-- What is read off a tree is at one position. -/
theorem lists_own (n : Node) : Lists (fun p r => p = [0] ∧ r ∈ n.own) n.own := by
  rcases own_eq_nil_or n with h | ⟨r, h⟩
  · rw [h]
    exact ⟨[], .nil, by simp, rfl⟩
  · rw [h]
    exact ⟨[([0], r)], List.pairwise_singleton _ _, by simp, rfl⟩

/-- A tree comes before what stands in it. -/
theorem Position.before_below (h : At ns q m) : Position.Before [0] (0 :: q) := by
  obtain ⟨i, q, rfl⟩ := List.exists_cons_of_ne_nil h.ne_nil
  exact .cons .nil

/-- The first tree and what stands in it come before the other trees. -/
theorem Position.before_bump (h : At ns q m) : Position.Before (0 :: p) q.bump := by
  obtain ⟨i, q, rfl⟩ := List.exists_cons_of_ne_nil h.ne_nil
  exact .rel i.succ_pos

/-- The imports of trees are what is read off each, in the order of the text. -/
theorem lists_allImports (ns : List Node) :
    Lists (fun p r => ∃ n, At ns p n ∧ r ∈ n.own) (allImports ns) := by
  induction ns using children_induction with
  | nil =>
    refine ⟨[], .nil, fun p r => ⟨nofun, ?_⟩, rfl⟩
    rintro ⟨n, ⟨h⟩ | ⟨h, -⟩, -⟩ <;> cases h
  | cons n ns ihn ihns =>
    have hbelow := ihn.move (0 :: ·) fun p q h => .cons h
    have hafter := ihns.move Position.bump fun p q h => h.bump
    rw [allImports, imports_eq]
    refine (((lists_own n).append hbelow ?_).append hafter ?_).congr fun p r =>
      found_cons_iff.symm
    · rintro p q r r' ⟨rfl, -⟩ ⟨q, ⟨m, hm, -⟩, rfl⟩
      exact Position.before_below hm
    · rintro p q r r' (⟨rfl, -⟩ | ⟨p, -, rfl⟩) ⟨q, ⟨m, hm, -⟩, rfl⟩
      · exact Position.before_bump hm
      · exact Position.before_bump hm

/-! ## The scan of a script -/

theorem rawImports?_of_parse? {contents : String} {kind : ContentKind}
    (hkind : kind.isScript = true) (hparse : parse? (dialectOf kind) contents = some ns) :
    rawImports? contents kind = some (allImports ns) := by
  rw [rawImports?, if_pos hkind, hparse, Option.map_some]

/-- If a script has no `export type *`, all imports that its trees name are found, in the order of
the text, and those are listed that come first of their specifier. -/
theorem scan_lists_occurrences {contents : String} {kind : ContentKind}
    (hkind : kind.isScript = true) (hparse : parse? (dialectOf kind) contents = some ns)
    (hstar : ∀ p source newName, ¬ At ns p (.exportAll true source newName)) :
    ∃ raw rs, rawImports? contents kind = some raw ∧ Lists (Occurs ns) raw ∧
      scanImports? contents kind = some rs ∧ Lists (FoundFirst (Occurs ns)) rs ∧
      (rs.map ImportRecord.specifier).Nodup := by
  have hraw := rawImports?_of_parse? hkind hparse
  have hscan : scanImports? contents kind = some (dropRepeats [] (allImports ns)) := by
    rw [scanImports?, hraw, Option.map_some]
  have hlists : Lists (Occurs ns) (allImports ns) := by
    refine (lists_allImports ns).congr fun p r => exists_congr fun n => and_congr_right fun hn => ?_
    refine mem_own_iff ?_
    rintro source newName rfl
    exact hstar p source newName hn
  exact ⟨_, _, hraw, hlists, hscan, hlists.dropRepeats, nodup_scanImports? hscan⟩

/-- Imports in a parameter, in a template, in an element of markup and in a call. -/
def nested : String :=
  "import './a'\nconst f = (x = require('./b'), y = \x60$\x7bimport('./c')\x7d\x60) =>" ++
    " <p>\x7brequire(require('./a'))\x7d</p>"

/-- All of them are found, and `./a` is listed where it is imported statically. -/
theorem scan_lists_nested :
    ∃ ns raw rs, ContentKind.tsx.isScript = true ∧ parse? (dialectOf .tsx) nested = some ns ∧
      (∀ p source newName, ¬ At ns p (.exportAll true source newName)) ∧
      rawImports? nested .tsx = some raw ∧ Lists (Occurs ns) raw ∧
      scanImports? nested .tsx = some rs ∧ Lists (FoundFirst (Occurs ns)) rs ∧
      (rs.map ImportRecord.specifier).Nodup ∧
      raw = [⟨"./a", .static⟩, ⟨"./b", .require⟩, ⟨"./c", .dynamic⟩, ⟨"./a", .require⟩] ∧
      rs = [⟨"./a", .static⟩, ⟨"./b", .require⟩, ⟨"./c", .dynamic⟩] := by
  obtain ⟨ns, hparse⟩ : ∃ ns, parse? (dialectOf .tsx) nested = some ns :=
    Option.isSome_iff_exists.mp (by decide +kernel)
  have hraw : rawImports? nested .tsx =
      some [⟨"./a", .static⟩, ⟨"./b", .require⟩, ⟨"./c", .dynamic⟩, ⟨"./a", .require⟩] := by
    decide +kernel
  have hrs : scanImports? nested .tsx =
      some [⟨"./a", .static⟩, ⟨"./b", .require⟩, ⟨"./c", .dynamic⟩] := by
    decide +kernel
  have hstar : ∀ p source newName, ¬ At ns p (.exportAll true source newName) := by
    intro p source newName h
    have hmem : ⟨source, .reExport⟩ ∈ allImports ns :=
      (lists_allImports ns).mem_iff.mpr ⟨p, _, h, List.mem_singleton.mpr rfl⟩
    rw [rawImports?_of_parse? rfl hparse] at hraw
    rw [Option.some.inj hraw] at hmem
    simp at hmem
  obtain ⟨raw, rs, hraw', hlists, hrs', hfirst, hnodup⟩ :=
    scan_lists_occurrences rfl hparse hstar
  cases hraw.symm.trans hraw'
  cases hrs.symm.trans hrs'
  exact ⟨ns, _, _, rfl, hparse, hstar, hraw, hlists, hrs, hfirst, hnodup, rfl, rfl⟩

end BundleGraph.Script
