import BundleGraph.Proofs.Import.Stylesheet

/-!
# Rules in comments, and names with quotes in them

A stylesheet is searched for rules as raw text.  What the search reports is always spelled as a
rule, but the search knows neither where comments are nor which of the two quotes opened a name: a
rule in a comment is reported like any other, and a name is cut at the first quote of either kind.
Where no comment holds the keyword and no rule mixes its quotes, what is reported is what the
stylesheet means.

## Main definitions

* `Region` and `regionAfter` — whether a text leaves off in a comment, between quotes or in
  neither.
* `Place` — a rule as the search reads it, with the text around it.
* `Meant` — a name stands in full in a rule outside every comment.
* `SearchLaw` and `sound_unless_commented_or_mixed` — what is reported, and when it is meant.
-/

namespace BundleGraph.Stylesheet

variable {cs name rest t u : List Char} {before after : List Char} {close q : Char} {s : String}

/-! ## Comments -/

/-- Where a text leaves off. -/
inductive Region where
  | plain
  /-- After a slash that may open a comment. -/
  | slash
  | comment
  /-- In a comment, after a star that may close it. -/
  | star
  /-- After a quote, before the next one of its kind. -/
  | quoted (q : Char)
  deriving DecidableEq

/-- Where a sign outside comments and quotes leads. -/
def Region.enter (c : Char) : Region :=
  if isQuote c then .quoted c else if c = '/' then .slash else .plain

/-- Where the next sign leads. -/
def Region.next : Region → Char → Region
  | .plain, c => enter c
  | .slash, c => if c = '*' then .comment else enter c
  | .comment, c => if c = '*' then .star else .comment
  | .star, c => if c = '/' then .plain else if c = '*' then .star else .comment
  | .quoted q, c => if c = q then .plain else .quoted q

/-- Where a text leaves off that starts outside comments and quotes. -/
def regionAfter (before : List Char) : Region :=
  before.foldl .next .plain

/-- What follows the text is in a comment. -/
def InComment (before : List Char) : Prop :=
  regionAfter before = .comment ∨ regionAfter before = .star

instance (before : List Char) : Decidable (InComment before) :=
  inferInstanceAs (Decidable (_ ∨ _))

/-- From within a comment no sign but the closing ones leads out of it. -/
theorem inComment_foldl {region : Region} (hregion : region = .comment ∨ region = .star)
    (ht : ¬ ['*', '/'] <:+: t) (hstar : region = .star → t.head? ≠ some '/') :
    t.foldl Region.next region = .comment ∨ t.foldl Region.next region = .star := by
  induction t generalizing region with
  | nil => exact hregion
  | cons c t ih =>
    rw [List.infix_cons_iff, not_or] at ht
    have hslash : c = '*' → t.head? ≠ some '/' := by
      rintro rfl hhead
      obtain ⟨d, t, rfl⟩ := List.exists_cons_of_ne_nil (l := t) (by rintro rfl; cases hhead)
      cases hhead
      exact ht.1 ⟨t, rfl⟩
    rw [List.foldl_cons]
    rcases hregion with rfl | rfl
    · by_cases hc : c = '*'
      · exact ih (.inr (if_pos hc)) ht.2 fun _ => hslash hc
      · exact ih (.inl (if_neg hc)) ht.2 fun h => by simp [Region.next, hc] at h
    · have hne : c ≠ '/' := by simpa using hstar rfl
      by_cases hc : c = '*'
      · exact ih (.inr (by simp [Region.next, hc])) ht.2 fun _ => hslash hc
      · exact ih (.inl (by simp [Region.next, hc, hne])) ht.2
          fun h => by simp [Region.next, hc, hne] at h

/-- A comment opened outside quotes lasts until it is closed. -/
theorem inComment_append (hbefore : regionAfter before = .plain) (ht : ¬ ['*', '/'] <:+: t) :
    InComment (before ++ '/' :: '*' :: t) := by
  have hregion : regionAfter (before ++ '/' :: '*' :: t) = t.foldl Region.next .comment := by
    rw [regionAfter, List.foldl_append, ← regionAfter, hbefore]
    rfl
  rw [InComment, hregion]
  exact inComment_foldl (.inl rfl) ht nofun

/-! ## Places -/

/-- A rule as the search reads it, with the text around it.  The quote that ends its name may be
of the other kind than the one before it. -/
structure Place where
  before : List Char
  rule : Rule
  close : Char
  after : List Char
  close_isQuote : isQuote close = true

/-- The text that a rule stands in. -/
def Place.text (p : Place) : List Char :=
  p.before ++ (p.rule.lead ++ (p.rule.name ++ p.close :: p.after))

/-- After `before` a rule starts, and the name is all up to the next quote of the kind that opened
it.  Of the rule only the start counts. -/
def WholeAt (cs before name : List Char) : Prop :=
  ∃ (r : Rule) (after : List Char), r.quote ∉ name ∧
    cs = before ++ (r.lead ++ (name ++ r.quote :: after))

/-- Outside every comment a rule has the whole name. -/
def Meant (cs name : List Char) : Prop :=
  ∃ before, WholeAt cs before name ∧ ¬ InComment before

/-- A rule starts the same whatever its name is. -/
def Rule.renamed (r : Rule) (name : List Char) (hne : name ≠ [])
    (hplain : ∀ c ∈ name, isQuote c = false) : Rule :=
  { r with name, name_ne := hne, name_plain := hplain }

theorem Rule.quote_eq_of_lead {r r' : Rule} (h : r.lead = r'.lead) : r.quote = r'.quote := by
  have hlast := congrArg List.getLast? h
  simpa [lead] using hlast

theorem Rule.keyword_prefix_lead (r : Rule) (rest : List Char) : keyword <+: r.lead ++ rest := by
  rw [lead, List.append_assoc]
  exact List.prefix_append _ _

/-- A whole name is in a rule, which starts with the keyword. -/
theorem WholeAt.keyword_at (h : WholeAt cs before name) : before.length < cs.length ∧
    keyword <+: cs.drop before.length ∧ cs.take before.length = before := by
  obtain ⟨r, after, -, rfl⟩ := h
  refine ⟨by simp only [List.length_append, List.length_cons]; omega, ?_, List.take_left⟩
  rw [List.drop_left]
  exact r.keyword_prefix_lead _

/-- What is read at a place is the whole name exactly if the rule does not mix its quotes. -/
theorem Place.wholeAt_iff (p : Place) :
    WholeAt p.text p.before p.rule.name ↔ p.close = p.rule.quote := by
  constructor
  · rintro ⟨r, after, -, heq⟩
    have heq := List.append_cancel_left heq
    -- Both spellings are read, so that they leave the same text.
    have hread : ruleAt? (r.lead ++ (p.rule.name ++ r.quote :: after)) =
        some (p.rule.name, after) :=
      ruleAt?_lead (r.renamed p.rule.name p.rule.name_ne p.rule.name_plain) r.quote_isQuote after
    rw [← heq, ruleAt?_lead p.rule p.close_isQuote] at hread
    cases hread
    obtain ⟨hlead, hquote⟩ := List.append_inj' heq (by simp)
    rw [Rule.quote_eq_of_lead hlead]
    exact (List.cons.inj (List.append_cancel_left hquote)).1
  · intro hclose
    refine ⟨p.rule, p.after, fun hmem => ?_, by rw [text, hclose]⟩
    have hplain := p.rule.name_plain _ hmem
    rw [p.rule.quote_isQuote] at hplain
    cases hplain

/-- Every name that is found is read at a place of the text. -/
theorem exists_place_of_mem_names (h : s ∈ names cs) :
    ∃ p : Place, p.text = cs ∧ p.rule.name = s.toList := by
  induction hn : cs.length using Nat.strongRecOn generalizing cs with
  | ind n ih =>
    cases hrule : ruleAt? cs with
    | some x =>
      obtain ⟨name, rest⟩ := x
      obtain ⟨r, close, hclose, rfl, rfl⟩ := exists_rule_of_ruleAt? hrule
      rw [names_of_ruleAt? hrule, List.mem_cons] at h
      rcases h with rfl | h
      · exact ⟨⟨[], r, close, rest, hclose⟩, rfl, String.toList_ofList.symm⟩
      · obtain ⟨p, rfl, hname⟩ := ih _ (hn ▸ length_of_ruleAt? hrule) h rfl
        refine ⟨{ p with before := r.lead ++ (r.name ++ close :: p.before) }, ?_, hname⟩
        simp [Place.text]
    | none =>
      cases cs with
      | nil => rw [names_nil] at h; cases h
      | cons c cs =>
        rw [names_cons_of_none hrule] at h
        obtain ⟨p, rfl, hname⟩ := ih cs.length (hn ▸ Nat.lt_succ_self _) h rfl
        exact ⟨{ p with before := c :: p.before }, rfl, hname⟩

/-! ## What is reported -/

/-- No comment holds what a rule starts with. -/
def CommentsBare (cs : List Char) : Prop :=
  ∀ before after, cs = before ++ (keyword ++ after) → ¬ InComment before

/-- The name of every rule is ended by the quote that opened it. -/
def OwnQuotes (cs : List Char) : Prop :=
  ∀ p : Place, p.text = cs → p.close = p.rule.quote

theorem commentsBare_iff : CommentsBare cs ↔
    ∀ i < cs.length, keyword <+: cs.drop i → ¬ InComment (cs.take i) := by
  constructor
  · rintro h i - ⟨after, hafter⟩
    exact h _ after (by rw [hafter, List.take_append_drop])
  · rintro h before after rfl
    have hbefore := h before.length (by simp [keyword])
    rw [List.drop_left, List.take_left] at hbefore
    exact hbefore (List.prefix_append _ _)

instance (cs : List Char) : Decidable (CommentsBare cs) :=
  decidable_of_iff _ commentsBare_iff.symm

/-- Where one kind of quotes is in use, no rule mixes them. -/
theorem ownQuotes_of_all (h : (cs.filter isQuote).all (· == q) = true) : OwnQuotes cs := by
  have hquote : ∀ c ∈ cs, isQuote c = true → c = q := fun c hc hisQuote => by
    simpa using List.all_eq_true.mp h c (List.mem_filter.mpr ⟨hc, hisQuote⟩)
  rintro p rfl
  rw [hquote p.close (by simp [Place.text]) p.close_isQuote,
    hquote p.rule.quote (by simp [Place.text, Rule.lead]) p.rule.quote_isQuote]

theorem Place.meant (p : Place) (hbare : CommentsBare p.text) (hown : OwnQuotes p.text) :
    Meant p.text p.rule.name := by
  obtain ⟨rest, hrest⟩ := p.rule.keyword_prefix_lead (p.rule.name ++ p.close :: p.after)
  exact ⟨p.before, p.wholeAt_iff.mpr (hown p rfl), hbare p.before rest (by rw [text, hrest])⟩

theorem names_cons_of_ne {c : Char} (hc : c ≠ '@') : names (c :: cs) = names cs := by
  refine names_cons_of_none (Option.eq_none_iff_forall_ne_some.mpr fun x hx => hc ?_)
  obtain ⟨rest, hrest⟩ := keyword_prefix_of_ruleAt? hx
  exact (List.cons.inj hrest).1.symm

/-- What is found after a sheet, when a rule stands there. -/
theorem names_sheetText_rule (lead : Filler) (rules : List (Rule × Filler)) (r : Rule)
    (hclose : isQuote close = true) (rest : List Char) :
    names (sheetText lead rules ++ (r.lead ++ (r.name ++ close :: rest))) =
      (rules.map fun x => String.ofList x.1.name) ++ String.ofList r.name :: names rest := by
  have hhead : ∀ c ∈ (r.lead ++ (r.name ++ close :: rest)).head?, c ∉ keyword.tail := by
    rintro c ⟨⟩
    decide
  rw [names_sheetText_append lead rules hhead, names_of_ruleAt? (ruleAt?_lead r hclose rest)]

/-- What is found after a sheet, when a rule stands there in a comment. -/
theorem names_sheetText_commented (lead : Filler) (rules : List (Rule × Filler)) (note : Filler)
    (r : Rule) (rest : List Char) :
    names (sheetText lead rules ++
        '/' :: '*' :: (note.text ++ (r.text ++ '*' :: '/' :: rest))) =
      (rules.map fun x => String.ofList x.1.name) ++ String.ofList r.name :: names rest := by
  have hopen : ∀ c ∈ ('/' :: '*' :: (note.text ++ (r.text ++ '*' :: '/' :: rest))).head?,
      c ∉ keyword.tail := by
    rintro c ⟨⟩
    decide
  have hhead : ∀ c ∈ (r.text ++ '*' :: '/' :: rest).head?, c ∉ keyword.tail := by
    rintro c ⟨⟩
    decide
  rw [names_sheetText_append lead rules hopen, names_cons_of_ne (by decide),
    names_cons_of_ne (by decide), names_append note.no_keyword hhead,
    names_of_ruleAt? (ruleAt?_text r _), names_cons_of_ne (by decide),
    names_cons_of_ne (by decide)]

theorem scanImports?_congr {text text' : String} (h : names text.toList = names text'.toList) :
    scanImports? text .css = scanImports? text' .css := by
  rw [scanImports?_css, scanImports?_css, h]

/-- What can be said of the records reported of a stylesheet. -/
structure Reports (cs : List Char) (rs : List ImportRecord) : Prop where
  /-- Each is read at a place of the text.  It is the whole name there exactly if the rule does not
  mix its quotes. -/
  read : ∀ r ∈ rs, r.kind = .stylesheet ∧ ∃ p : Place, p.text = cs ∧
    p.rule.name = r.specifier.toList ∧
    (WholeAt cs p.before r.specifier.toList ↔ p.close = p.rule.quote)
  /-- It is meant exactly if at some place it is read outside comments, from a rule that does not
  mix its quotes. -/
  meant_iff : ∀ r ∈ rs, Meant cs r.specifier.toList ↔ ∃ p : Place, p.text = cs ∧
    p.rule.name = r.specifier.toList ∧ p.close = p.rule.quote ∧ ¬ InComment p.before
  /-- All are meant if no comment holds the keyword and no rule mixes its quotes. -/
  meant : CommentsBare cs → OwnQuotes cs → ∀ r ∈ rs, Meant cs r.specifier.toList

/-- A name that is read somewhere is meant exactly if it is read where it is meant. -/
theorem Place.meant_iff (p : Place) : Meant p.text p.rule.name ↔ ∃ p' : Place,
    p'.text = p.text ∧ p'.rule.name = p.rule.name ∧ p'.close = p'.rule.quote ∧
      ¬ InComment p'.before := by
  constructor
  · rintro ⟨before, ⟨r, after, -, htext⟩, hout⟩
    let rule := r.renamed p.rule.name p.rule.name_ne p.rule.name_plain
    exact ⟨⟨before, rule, r.quote, after, r.quote_isQuote⟩, htext.symm, rfl, rfl, hout⟩
  · rintro ⟨p', htext, hname, hclose, hout⟩
    rw [← htext, ← hname]
    exact ⟨p'.before, p'.wholeAt_iff.mpr hclose, hout⟩

/-- What is reported is read somewhere. -/
theorem exists_place_of_reported {r : ImportRecord}
    (hr : r ∈ (names cs).eraseDups.map fun s => (⟨s, .stylesheet⟩ : ImportRecord)) :
    r.kind = .stylesheet ∧ ∃ p : Place, p.text = cs ∧ p.rule.name = r.specifier.toList := by
  obtain ⟨s, hs, rfl⟩ := List.mem_map.mp hr
  exact ⟨rfl, exists_place_of_mem_names (List.mem_eraseDups.mp hs)⟩

theorem reports_css (text : String) : Reports text.toList
    ((names text.toList).eraseDups.map fun s => ⟨s, .stylesheet⟩) := by
  constructor
  case read =>
    intro r hr
    obtain ⟨hkind, p, htext, hname⟩ := exists_place_of_reported hr
    refine ⟨hkind, p, htext, hname, ?_⟩
    rw [← htext, ← hname]
    exact p.wholeAt_iff
  case meant_iff =>
    intro r hr
    obtain ⟨-, p, htext, hname⟩ := exists_place_of_reported hr
    rw [← htext, ← hname]
    exact p.meant_iff
  case meant =>
    intro hbare hown r hr
    obtain ⟨-, p, htext, hname⟩ := exists_place_of_reported hr
    rw [← htext] at hbare hown ⊢
    rw [← hname]
    exact p.meant hbare hown

/-- The name is reported of a stylesheet. -/
def Reported (text : String) (name : List Char) : Prop :=
  ∃ rs, scanImports? text .css = some rs ∧ ⟨String.ofList name, .stylesheet⟩ ∈ rs

theorem reported_of_mem_names {text : String} (h : String.ofList name ∈ names text.toList) :
    Reported text name :=
  ⟨_, scanImports?_css text, List.mem_map.mpr ⟨_, List.mem_eraseDups.mpr h, rfl⟩⟩

/-- What the search makes of a stylesheet. -/
structure SearchLaw (text : String) : Prop where
  reports : ∃ rs, scanImports? text .css = some rs ∧ Reports text.toList rs
  /-- A rule in a comment is reported just as without the comment. -/
  comment_unseen : ∀ (lead : Filler) (rules : List (Rule × Filler)) (note : Filler) (r : Rule)
      (rest : List Char), regionAfter (sheetText lead rules) = .plain →
    ¬ ['*', '/'] <:+: note.text →
    text.toList = sheetText lead rules ++
      '/' :: '*' :: (note.text ++ (r.text ++ '*' :: '/' :: rest)) →
    InComment (sheetText lead rules ++ '/' :: '*' :: note.text) ∧ Reported text r.name ∧
      scanImports? text .css =
        scanImports? (String.ofList (sheetText lead rules ++ (r.text ++ rest))) .css
  /-- A name is ended by the other quote just as by its own. -/
  kind_unseen : ∀ (lead : Filler) (rules : List (Rule × Filler)) (r : Rule) (close : Char)
      (rest : List Char), isQuote close = true →
    text.toList = sheetText lead rules ++ (r.lead ++ (r.name ++ close :: rest)) →
    Reported text r.name ∧
      scanImports? text .css =
        scanImports? (String.ofList (sheetText lead rules ++ (r.text ++ rest))) .css

/-- What is reported of a stylesheet is read in it, and is what the stylesheet means if no comment
holds the keyword and no rule mixes its quotes.  Comments and the kinds of quotes go unseen. -/
theorem sound_unless_commented_or_mixed (text : String) : SearchLaw text := by
  constructor
  case reports => exact ⟨_, scanImports?_css text, reports_css text⟩
  case comment_unseen =>
    intro lead rules note r rest hplain hnote htext
    have hnames := names_sheetText_commented lead rules note r rest
    rw [← htext] at hnames
    refine ⟨inComment_append hplain hnote, reported_of_mem_names (by simp [hnames]),
      scanImports?_congr ?_⟩
    rw [hnames, String.toList_ofList, r.text_append,
      names_sheetText_rule lead rules r r.quote_isQuote]
  case kind_unseen =>
    intro lead rules r close rest hclose htext
    have hnames := names_sheetText_rule lead rules r hclose rest
    rw [← htext] at hnames
    refine ⟨reported_of_mem_names (by simp [hnames]), scanImports?_congr ?_⟩
    rw [hnames, String.toList_ofList, r.text_append,
      names_sheetText_rule lead rules r r.quote_isQuote]

/-- The rule `@import "it"`. -/
def itRule : Rule where
  gap := [' ']
  opening := none
  quote := '"'
  name := ['i', 't']
  gap_ne := by decide
  gap_blank := List.forall_mem_singleton.mpr rfl
  opening_blank := by decide
  quote_isQuote := by decide
  name_ne := by decide
  name_plain := by simp [isQuote]

/-- A blank between rules. -/
def blank : Filler := ⟨[' '], by decide⟩

/-- A comment before a rule is passed over, a comment around one goes unseen, and so does the
kind of its second quote. -/
theorem sound_after_comment :
    let text := "/* it */ @import url( 'a.css');"
    (CommentsBare text.toList ∧ OwnQuotes text.toList ∧
      scanImports? text .css = some [⟨"a.css", .stylesheet⟩] ∧
      Meant text.toList "a.css".toList) ∧
    (regionAfter (sheetText blank []) = .plain ∧ ¬ ['*', '/'] <:+: blank.text ∧
      InComment " /* ".toList ∧ Reported " /* @import \"it\"*/;" ['i', 't'] ∧
      scanImports? " /* @import \"it\"*/;" .css = scanImports? " @import \"it\";" .css) ∧
    (isQuote '\'' = true ∧ Reported " @import \"it's.css\";" ['i', 't'] ∧
      scanImports? " @import \"it's.css\";" .css = scanImports? " @import \"it\"s.css\";" .css) := by
  intro text
  have hbare : CommentsBare text.toList := by decide +kernel
  have hown : OwnQuotes text.toList := ownQuotes_of_all (q := '\'') (by decide +kernel)
  have hscan : scanImports? text .css = some [⟨"a.css", .stylesheet⟩] := by decide +kernel
  have hplain : regionAfter (sheetText blank []) = .plain := by decide
  have hopen : ¬ ['*', '/'] <:+: blank.text := by decide
  obtain ⟨rs, hrs, hreported⟩ := (sound_unless_commented_or_mixed text).reports
  cases hrs.symm.trans hscan
  have hcommented := (sound_unless_commented_or_mixed " /* @import \"it\"*/;").comment_unseen
    blank [] blank itRule [';'] hplain hopen rfl
  refine ⟨⟨hbare, hown, hscan, hreported.meant hbare hown _ List.mem_cons_self⟩,
    ⟨hplain, hopen, hcommented⟩, rfl, ?_⟩
  exact (sound_unless_commented_or_mixed " @import \"it's.css\";").kind_unseen
    blank [] itRule '\'' ['s', '.', 'c', 's', 's', '"', ';'] rfl rfl

/-- A rule in a comment is reported, and of a name with an apostrophe the part before it. -/
theorem commented_and_mixed_not_meant :
    let commented := "/*@import 'a.css';*/"
    let mixed := "@import \"it's.css\";"
    scanImports? commented .css = some [⟨"a.css", .stylesheet⟩] ∧
      ¬ Meant commented.toList "a.css".toList ∧
      scanImports? mixed .css = some [⟨"it", .stylesheet⟩] ∧
      ¬ Meant mixed.toList "it".toList := by
  intro commented mixed
  refine ⟨by decide +kernel, ?_, by decide +kernel, ?_⟩
  · rintro ⟨before, hwhole, hout⟩
    obtain ⟨hlt, hkeyword, htake⟩ := hwhole.keyword_at
    have hplaces : ∀ i < commented.toList.length, keyword <+: commented.toList.drop i →
        InComment (commented.toList.take i) := by decide +kernel
    exact hout (htake ▸ hplaces _ hlt hkeyword)
  · rintro ⟨before, hwhole, -⟩
    obtain ⟨hlt, hkeyword, -⟩ := hwhole.keyword_at
    have hplaces : ∀ i < mixed.toList.length, keyword <+: mixed.toList.drop i → i = 0 := by
      decide +kernel
    obtain rfl := List.length_eq_zero_iff.mp (hplaces _ hlt hkeyword)
    let p : Place := ⟨[], itRule, '\'', "s.css\";".toList, rfl⟩
    have htext : p.text = mixed.toList := by decide +kernel
    rw [← htext] at hwhole
    exact absurd (p.wholeAt_iff.mp hwhole) (by decide)

end BundleGraph.Stylesheet
