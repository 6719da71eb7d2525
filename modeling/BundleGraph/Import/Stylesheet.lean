import BundleGraph.Import.Basic
import BundleGraph.Text.Blank

/-!
# Imports of stylesheets

A rule is `@import`, blanks, perhaps `url(` and blanks, and a name between quotes.  The
text is searched from the left for rules that do not overlap; comments are text like any
other, and either quote ends a name.

## Main definitions

* `Stylesheet.ruleAt?` — the rule a text starts with.
* `Stylesheet.names` — the names of all rules.
-/

namespace BundleGraph.Stylesheet

/-- What follows `lead` if the text starts with it. -/
def after? : List Char → List Char → Option (List Char)
  | [], cs => some cs
  | l :: ls, c :: cs => if l = c then after? ls cs else none
  | _ :: _, [] => none

def isQuote (c : Char) : Bool :=
  c == '"' || c == '\''

/-- The name between quotes at the start of a text, and what follows. -/
def quoted? : List Char → Option (List Char × List Char)
  | [] => none
  | c :: cs =>
    let name := cs.takeWhile (!isQuote ·)
    match cs.dropWhile (!isQuote ·) with
    | _ :: rest => if isQuote c && !name.isEmpty then some (name, rest) else none
    | [] => none

/-- The text without `url(` and the blanks after it. -/
def dropOpening (cs : List Char) : List Char :=
  match after? ['u', 'r', 'l', '('] cs with
  | some r => r.dropWhile Text.isBlank
  | none => cs

/-- The name of the rule that a text starts with, and what follows the rule. -/
def ruleAt? (cs : List Char) : Option (List Char × List Char) :=
  match after? ['@', 'i', 'm', 'p', 'o', 'r', 't'] cs with
  | some (c :: r) =>
    if Text.isBlank c then quoted? (dropOpening (r.dropWhile Text.isBlank)) else none
  | _ => none

theorem length_of_after? {l cs r : List Char} (h : after? l cs = some r) :
    r.length + l.length = cs.length := by
  induction l generalizing cs with
  | nil => simp_all [after?]
  | cons x l ih =>
    cases cs with
    | nil => simp [after?] at h
    | cons c cs =>
      simp only [after?] at h
      split at h
      · have := ih h
        simp only [List.length_cons]
        omega
      · cases h

theorem length_of_quoted? {cs name r : List Char} (h : quoted? cs = some (name, r)) :
    r.length < cs.length := by
  cases cs with
  | nil => simp [quoted?] at h
  | cons c cs =>
    simp only [quoted?] at h
    split at h
    · rename_i rest hd
      split at h
      · have : (cs.dropWhile (!isQuote ·)).length ≤ cs.length := (List.dropWhile_sublist _).length_le
        simp only [Option.some.injEq, Prod.mk.injEq] at h
        rw [hd] at this
        simp only [List.length_cons] at this ⊢
        rw [← h.2]
        omega
      · cases h
    · cases h

theorem length_dropOpening_le (cs : List Char) : (dropOpening cs).length ≤ cs.length := by
  unfold dropOpening
  split
  · rename_i r h
    have := length_of_after? h
    have : (r.dropWhile Text.isBlank).length ≤ r.length := (List.dropWhile_sublist _).length_le
    omega
  · exact Nat.le_refl _

/-- A rule takes characters from the text. -/
theorem length_of_ruleAt? {cs name r : List Char} (h : ruleAt? cs = some (name, r)) :
    r.length < cs.length := by
  unfold ruleAt? at h
  split at h
  · rename_i c r' ha
    split at h
    · have h1 := length_of_quoted? h
      have h2 := length_dropOpening_le (r'.dropWhile Text.isBlank)
      have h3 : (r'.dropWhile Text.isBlank).length ≤ r'.length :=
        (List.dropWhile_sublist _).length_le
      have h4 := length_of_after? ha
      simp only [List.length_cons] at h4
      omega
    · cases h
  · cases h

/-- The names of all rules of a text, from the left. -/
def names (cs : List Char) : List String :=
  match h : ruleAt? cs with
  | some (name, rest) =>
    have := length_of_ruleAt? h
    String.ofList name :: names rest
  | none =>
    match cs with
    | [] => []
    | _ :: r => names r
termination_by cs.length

def imports (text : String) : List ImportRecord :=
  (names text.toList).map fun name => ⟨name, .stylesheet⟩

end BundleGraph.Stylesheet
