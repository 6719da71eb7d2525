import BundleGraph.Proofs.Import.Scan
import Mathlib.Data.List.TakeWhile

/-!
# Rules written into stylesheets and read back

A rule is found where its keyword stands.  A text without the keyword cannot hold the start of a
rule, not even one that runs on into the next rule: the keyword starts with a sign that does not
occur in the rest of it.  A rule ends at its second quote, so that its name is passed over whole,
whatever it contains.

## Main definitions

* `Rule` — a rule as it may be written.
* `Filler` — a text between rules, and `sheet` — a stylesheet made of both.
* `quoted?_eq_some_iff` — which names are read.
* `names_append` — a text without the keyword has no rules.
* `scan_sheet` — the names of a stylesheet are the names of its rules.
-/

namespace BundleGraph.Stylesheet

variable {cs name rest t u : List Char} {q : Char}

/-- What a rule starts with. -/
def keyword : List Char := ['@', 'i', 'm', 'p', 'o', 'r', 't']

/-- A rule as it may be written. -/
structure Rule where
  /-- The blanks after the keyword. -/
  gap : List Char
  /-- The blanks after `url(`, if it is there. -/
  opening : Option (List Char)
  quote : Char
  name : List Char
  gap_ne : gap ≠ []
  gap_blank : ∀ c ∈ gap, Text.isBlank c = true
  opening_blank : ∀ blanks ∈ opening, ∀ c ∈ blanks, Text.isBlank c = true
  quote_isQuote : isQuote quote = true
  name_ne : name ≠ []
  name_plain : ∀ c ∈ name, isQuote c = false

/-- What stands between the blanks after the keyword and the first quote. -/
def Rule.openingText (r : Rule) : List Char :=
  match r.opening with
  | none => []
  | some blanks => ['u', 'r', 'l', '('] ++ blanks

/-- The start of a rule, up to the quote before its name. -/
def Rule.lead (r : Rule) : List Char :=
  keyword ++ (r.gap ++ (r.openingText ++ [r.quote]))

/-- The text of a rule, up to its second quote. -/
def Rule.text (r : Rule) : List Char :=
  keyword ++ (r.gap ++ (r.openingText ++ r.quote :: (r.name ++ [r.quote])))

/-- A text without the keyword. -/
structure Filler where
  text : List Char
  no_keyword : ¬ keyword <:+: text

/-- Rules with texts before, between and after them. -/
def sheetText (lead : Filler) : List (Rule × Filler) → List Char
  | [] => lead.text
  | (r, next) :: more => lead.text ++ (r.text ++ sheetText next more)

/-- The stylesheet of rules with texts before, between and after them. -/
def sheet (lead : Filler) (rules : List (Rule × Filler)) : String :=
  String.ofList (sheetText lead rules)

/-! ## Reading a rule -/

theorem isQuote_iff : isQuote q = true ↔ q = '"' ∨ q = '\'' := by
  rw [isQuote, Bool.or_eq_true, beq_iff_eq, beq_iff_eq]

theorem after?_append (l r : List Char) : after? l (l ++ r) = some r := by
  induction l with
  | nil => rfl
  | cons c l ih => rw [List.cons_append, after?, if_pos rfl, ih]

/-- What is left after the start of a text is the rest of the text. -/
theorem eq_append_of_after? {l r : List Char} (h : after? l cs = some r) : cs = l ++ r := by
  induction l generalizing cs with
  | nil => exact Option.some.inj h
  | cons c l ih =>
    cases cs with
    | nil => cases h
    | cons d ds =>
      rw [after?] at h
      split at h
      · rename_i hcd
        rw [hcd, ih h, List.cons_append]
      · cases h

/-- A name is read if it stands between quotes, is not empty and has no quotes in it. -/
theorem quoted?_eq_some_iff : quoted? cs = some (name, rest) ↔
    ∃ q q', isQuote q = true ∧ isQuote q' = true ∧ name ≠ [] ∧ (∀ c ∈ name, isQuote c = false) ∧
      cs = q :: (name ++ q' :: rest) := by
  constructor
  · intro h
    cases cs with
    | nil => cases h
    | cons q ds =>
      simp only [quoted?] at h
      split at h
      · rename_i q' rest' hdrop
        split at h
        · rename_i hq
          obtain ⟨hq, hne⟩ := Bool.and_eq_true_iff.mp hq
          cases h
          have hplain : ∀ c ∈ ds.takeWhile (!isQuote ·), isQuote c = false := by
            intro c hc
            simpa using List.mem_takeWhile_imp hc
          have hq' : isQuote q' = true := by
            have hhead := List.head?_dropWhile_not (!isQuote ·) ds
            rw [hdrop] at hhead
            simpa using hhead
          refine ⟨q, q', hq, hq', by simpa using hne, hplain, ?_⟩
          rw [← hdrop, List.takeWhile_append_dropWhile]
        · cases h
      · cases h
  · rintro ⟨q, q', hq, hq', hne, hplain, rfl⟩
    have hname : ∀ c ∈ name, (!isQuote c) = true := fun c hc => by rw [hplain c hc]; rfl
    have hstop : ¬ (!isQuote q') = true := by simp [hq']
    have htake : (name ++ q' :: rest).takeWhile (!isQuote ·) = name := by
      rw [List.takeWhile_append_of_pos hname,
        List.takeWhile_cons_of_neg (p := (!isQuote ·)) hstop, List.append_nil]
    have hdrop : (name ++ q' :: rest).dropWhile (!isQuote ·) = q' :: rest := by
      rw [List.dropWhile_append_of_pos hname,
        List.dropWhile_cons_of_neg (p := (!isQuote ·)) hstop]
    simp [quoted?, htake, hdrop, hq, hne]

/-- The quote of a rule is no blank, and nothing that a rule could open with. -/
theorem Rule.quote_bare (r : Rule) : Text.isBlank r.quote = false ∧ r.quote ≠ 'u' := by
  rcases isQuote_iff.mp r.quote_isQuote with h | h <;> rw [h] <;> decide

/-- What a rule may open with is passed over. -/
theorem dropOpening_openingText (r : Rule) (rest : List Char) :
    dropOpening (r.openingText ++ r.quote :: rest) = r.quote :: rest := by
  obtain ⟨hblank, hu⟩ := r.quote_bare
  rw [Rule.openingText, dropOpening]
  cases hopening : r.opening with
  | none =>
    have hnone : after? ['u', 'r', 'l', '('] (r.quote :: rest) = none := if_neg (Ne.symm hu)
    simp only [List.nil_append, hnone]
  | some blanks =>
    have hstop : ¬ Text.isBlank r.quote = true := by simp [hblank]
    simp only [List.append_assoc, after?_append]
    rw [List.dropWhile_append_of_pos (r.opening_blank blanks hopening),
      List.dropWhile_cons_of_neg hstop]

/-- Only the blanks after the keyword are passed over before the opening. -/
theorem dropWhile_openingText (r : Rule) (rest : List Char) :
    (r.openingText ++ r.quote :: rest).dropWhile Text.isBlank =
      r.openingText ++ r.quote :: rest := by
  obtain ⟨hblank, -⟩ := r.quote_bare
  rw [Rule.openingText]
  cases r.opening with
  | none => exact List.dropWhile_cons_of_neg (by simp [hblank])
  | some blanks => exact List.dropWhile_cons_of_neg (by decide)

theorem Rule.text_append (r : Rule) (rest : List Char) :
    r.text ++ rest = r.lead ++ (r.name ++ r.quote :: rest) := by
  simp only [text, lead, List.append_assoc, List.cons_append, List.nil_append]

/-- A rule is read at its start, whichever quote ends its name, and what follows is left. -/
theorem ruleAt?_lead (r : Rule) {close : Char} (hclose : isQuote close = true) (rest : List Char) :
    ruleAt? (r.lead ++ (r.name ++ close :: rest)) = some (r.name, rest) := by
  obtain ⟨c, gap, hgap⟩ := List.exists_cons_of_ne_nil r.gap_ne
  have hblank : ∀ d ∈ c :: gap, Text.isBlank d = true := hgap ▸ r.gap_blank
  have hlead : r.lead ++ (r.name ++ close :: rest) =
      keyword ++ c :: (gap ++ (r.openingText ++ r.quote :: (r.name ++ close :: rest))) := by
    simp [Rule.lead, hgap]
  have hquoted : quoted? (r.quote :: (r.name ++ close :: rest)) = some (r.name, rest) :=
    quoted?_eq_some_iff.mpr ⟨_, _, r.quote_isQuote, hclose, r.name_ne, r.name_plain, rfl⟩
  have hkeyword : ∀ after, after? ['@', 'i', 'm', 'p', 'o', 'r', 't'] (keyword ++ after) =
      some after := after?_append keyword
  rw [hlead, ruleAt?, hkeyword]
  simp only [hblank c List.mem_cons_self, if_true]
  rw [List.dropWhile_append_of_pos fun d hd => hblank d (List.mem_cons_of_mem c hd),
    dropWhile_openingText, dropOpening_openingText, hquoted]

theorem ruleAt?_text (r : Rule) (rest : List Char) :
    ruleAt? (r.text ++ rest) = some (r.name, rest) := by
  rw [r.text_append, ruleAt?_lead r r.quote_isQuote]

/-- What stands before a quote is `url(` and blanks, or nothing. -/
theorem eq_append_dropOpening (cs : List Char) : ∃ opening : Option (List Char),
    (∀ blanks ∈ opening, ∀ c ∈ blanks, Text.isBlank c = true) ∧
      cs = (opening.elim [] (['u', 'r', 'l', '('] ++ ·)) ++ dropOpening cs := by
  rw [dropOpening]
  split
  · rename_i r hafter
    refine ⟨some (r.takeWhile Text.isBlank), ?_, ?_⟩
    · rintro blanks ⟨⟩ c hc
      exact List.mem_takeWhile_imp hc
    · rw [Option.elim_some, List.append_assoc, List.takeWhile_append_dropWhile]
      exact eq_append_of_after? hafter
  · exact ⟨none, nofun, rfl⟩

/-- Where a rule is read, one is spelled; only its second quote may be of the other kind. -/
theorem exists_rule_of_ruleAt? (h : ruleAt? cs = some (name, rest)) :
    ∃ (r : Rule) (close : Char), isQuote close = true ∧ r.name = name ∧
      cs = r.lead ++ (r.name ++ close :: rest) := by
  rw [ruleAt?] at h
  split at h
  · rename_i c after hafter
    split at h
    · rename_i hc
      obtain ⟨q, close, hq, hclose, hne, hplain, hquoted⟩ := quoted?_eq_some_iff.mp h
      obtain ⟨opening, hblanks, hopening⟩ := eq_append_dropOpening (after.dropWhile Text.isBlank)
      refine ⟨{
        gap := c :: after.takeWhile Text.isBlank
        opening, name
        quote := q
        gap_ne := List.cons_ne_nil _ _
        gap_blank := List.forall_mem_cons.mpr ⟨hc, fun d hd => List.mem_takeWhile_imp hd⟩
        opening_blank := hblanks
        quote_isQuote := hq
        name_ne := hne
        name_plain := hplain }, close, hclose, rfl, ?_⟩
      have hsplit := List.takeWhile_append_dropWhile (p := Text.isBlank) (l := after)
      rw [hopening, hquoted] at hsplit
      rw [eq_append_of_after? hafter]
      conv_lhs => rw [← hsplit]
      cases opening <;> simp [Rule.lead, Rule.openingText, keyword]
    · cases h
  · cases h

/-- Where a rule is read, the keyword stands. -/
theorem keyword_prefix_of_ruleAt? {x : List Char × List Char} (h : ruleAt? cs = some x) :
    keyword <+: cs := by
  obtain ⟨r, close, -, -, rfl⟩ := exists_rule_of_ruleAt? h
  rw [Rule.lead, List.append_assoc]
  exact List.prefix_append _ _

/-! ## Reading a stylesheet -/

theorem names_nil : names [] = [] := by
  rw [names]
  split
  · rename_i h
    cases h
  · rfl

theorem names_of_ruleAt? (h : ruleAt? cs = some (name, rest)) :
    names cs = String.ofList name :: names rest := by
  rw [names]
  split
  · rename_i h'
    cases h.symm.trans h'
    rfl
  · rename_i h'
    cases h.symm.trans h'

theorem names_cons_of_none {c : Char} (h : ruleAt? (c :: cs) = none) :
    names (c :: cs) = names cs := by
  rw [names]
  split
  · rename_i h'
    cases h.symm.trans h'
  · rfl

/-- The keyword does not start in a text and end in another one, unless the other starts within
the keyword. -/
theorem keyword_prefix_append (ht : t ≠ []) (hu : ∀ c ∈ u.head?, c ∉ keyword.tail)
    (h : keyword <+: t ++ u) : keyword <+: t := by
  rcases List.prefix_or_prefix_of_prefix h (List.prefix_append t u) with hkt | ⟨v, hv⟩
  · exact hkt
  · cases v with
    | nil =>
      rw [List.append_nil] at hv
      exact ⟨[], by rw [List.append_nil, hv]⟩
    | cons d v =>
      obtain ⟨c, t, rfl⟩ := List.exists_cons_of_ne_nil ht
      -- The other text goes on with the keyword, and not with its first sign.
      have hd : d ∉ keyword.tail := by
        rw [← hv, List.prefix_append_right_inj] at h
        obtain ⟨w, rfl⟩ := h
        exact hu d rfl
      have hmem : d ∈ keyword.tail := by
        rw [← hv, List.cons_append, List.tail_cons, List.mem_append]
        exact .inr List.mem_cons_self
      exact absurd hmem hd

/-- A text without the keyword has no rules, whatever follows, unless it starts within the
keyword. -/
theorem names_append (ht : ¬ keyword <:+: t) (hu : ∀ c ∈ u.head?, c ∉ keyword.tail) :
    names (t ++ u) = names u := by
  induction t with
  | nil => rfl
  | cons c t ih =>
    rw [List.infix_cons_iff, not_or] at ht
    have hnone : ruleAt? (c :: (t ++ u)) = none := by
      refine Option.eq_none_iff_forall_ne_some.mpr fun x hx => ht.1 ?_
      exact keyword_prefix_append (List.cons_ne_nil c t) hu (keyword_prefix_of_ruleAt? hx)
    rw [List.cons_append, names_cons_of_none hnone, ih ht.2]

/-- The names of a stylesheet that goes on are those of its rules, and then those of what follows,
unless it starts within the keyword. -/
theorem names_sheetText_append (lead : Filler) (rules : List (Rule × Filler))
    (hu : ∀ c ∈ u.head?, c ∉ keyword.tail) :
    names (sheetText lead rules ++ u) =
      (rules.map fun x => String.ofList x.1.name) ++ names u := by
  induction rules generalizing lead with
  | nil => exact names_append lead.no_keyword hu
  | cons x rules ih =>
    obtain ⟨r, next⟩ := x
    have hhead : ∀ c ∈ (r.text ++ (sheetText next rules ++ u)).head?, c ∉ keyword.tail := by
      rintro c ⟨⟩
      decide
    rw [sheetText, List.append_assoc, List.append_assoc, names_append lead.no_keyword hhead,
      names_of_ruleAt? (ruleAt?_text r _), ih]
    rfl

/-- The names of a stylesheet are those of its rules. -/
theorem names_sheetText (lead : Filler) (rules : List (Rule × Filler)) :
    names (sheetText lead rules) = rules.map fun x => String.ofList x.1.name := by
  have h := names_sheetText_append lead rules (u := []) nofun
  rwa [List.append_nil, names_nil, List.append_nil] at h

/-- Every name is not empty and has no quotes in it. -/
theorem plain_of_mem_names {s : String} (h : s ∈ names cs) :
    s ≠ "" ∧ ∀ c ∈ s.toList, isQuote c = false := by
  induction hn : cs.length using Nat.strongRecOn generalizing cs with
  | ind n ih =>
    cases hrule : ruleAt? cs with
    | some x =>
      obtain ⟨name, rest⟩ := x
      rw [names_of_ruleAt? hrule, List.mem_cons] at h
      rcases h with rfl | h
      · obtain ⟨r, -, -, rfl, -⟩ := exists_rule_of_ruleAt? hrule
        rw [String.toList_ofList]
        exact ⟨fun hempty => r.name_ne (by simpa using congrArg String.toList hempty),
          r.name_plain⟩
      · exact ih _ (hn ▸ length_of_ruleAt? hrule) h rfl
    | none =>
      cases cs with
      | nil => rw [names_nil] at h; cases h
      | cons c cs =>
        rw [names_cons_of_none hrule] at h
        exact ih cs.length (hn ▸ Nat.lt_succ_self _) h rfl

/-- The imports of a stylesheet are its names, each where it stands first. -/
theorem scanImports?_css (text : String) : scanImports? text .css =
    some ((names text.toList).eraseDups.map fun s => ⟨s, .stylesheet⟩) := by
  have hall : (names text.toList).filter (fun s => s ∉ ([] : List String)) = names text.toList :=
    List.filter_eq_self.mpr fun s _ => by simp
  have hraw : rawImports? text .css = some (imports text) := rfl
  rw [scanImports?, hraw, Option.map_some, imports, dropRepeats_map, hall]

/-- The imports of a stylesheet that is written as rules with texts between are the names of the
rules in their order, later repeats dropped.  Of any stylesheet, the specifiers are not empty, have
no quotes in them, and are pairwise different. -/
theorem scan_sheet (lead : Filler) (rules : List (Rule × Filler)) :
    scanImports? (sheet lead rules) .css =
        some ((rules.map fun x => String.ofList x.1.name).eraseDups.map
          fun s => ⟨s, .stylesheet⟩) ∧
      ∀ text : String, ∃ rs, scanImports? text .css = some rs ∧
        (∀ r ∈ rs, r.kind = .stylesheet ∧ r.specifier ≠ "" ∧
          ∀ c ∈ r.specifier.toList, isQuote c = false) ∧
        (rs.map ImportRecord.specifier).Nodup := by
  constructor
  · rw [scanImports?_css, sheet, String.toList_ofList, names_sheetText]
  · intro text
    refine ⟨_, scanImports?_css text, ?_, nodup_scanImports? (scanImports?_css text)⟩
    intro r hr
    obtain ⟨s, hs, rfl⟩ := List.mem_map.mp hr
    exact ⟨rfl, plain_of_mem_names (List.mem_eraseDups.mp hs)⟩

/-- Blanks may be any of Unicode, and a name may hold what a rule starts with. -/
example : scanImports? "@import\x09\u3000url( '@import url(x';) p{} @imp@import \"x\"" .css =
    some [⟨"@import url(x", .stylesheet⟩, ⟨"x", .stylesheet⟩] := by decide +kernel

end BundleGraph.Stylesheet
