import BundleGraph.Pattern.Automaton
import BundleGraph.Pattern.Grammar

/-!
# Patterns

A pattern is a text that describes others.  It is compiled once and then looked for in any
number of texts.

## Main definitions

* `Pattern.compile?` — the pattern of a text, if it is one.
* `Pattern.isFoundIn` — whether it is found in a text.
-/

namespace BundleGraph

/-- A pattern as written, and the instructions that look for it. -/
structure Pattern where
  source : String
  entry : Nat
  code : Pattern.Code

namespace Pattern

/-- The pattern of a text, if it is one. -/
def compile? (source : String) : Option Pattern :=
  (Expr.ofText? source).map fun e =>
    let (entry, code) := compile e
    ⟨source, entry, code⟩

/-- Whether some part of a text matches. -/
def isFoundIn (p : Pattern) (text : String) : Bool :=
  p.code.foundFrom p.entry none [] text.toList

theorem isFoundIn_of_empty {p : Pattern} (h : compile? "" = some p) (text : String) :
    p.isFoundIn text = true := by
  cases h
  rw [isFoundIn]
  cases text.toList with
  | nil => rfl
  | cons c cs => rfl

end Pattern

end BundleGraph
