import BundleGraph.Pattern.CharClass
import BundleGraph.Unicode.Property

/-!
# Patterns as trees

What a pattern means, without the way it was written.  Groups, and whether a repetition
prefers few or many, do not change whether a text matches and are not kept.

## Main definitions

* `Expr` — the trees.
* `Boundary.holds` — the places that are not characters.
* `Expr.cost` — how much room a tree takes in a matcher.
-/

namespace BundleGraph.Pattern

/-- A condition on a place between characters. -/
inductive Boundary where
  | textStart
  | textEnd
  | lineStart
  | lineEnd
  /-- The start of a line that may end with a carriage return, a line feed or both. -/
  | anyLineStart
  | anyLineEnd
  | word (unicode : Bool)
  | notWord (unicode : Bool)
  | wordStart (unicode : Bool)
  | wordEnd (unicode : Bool)
  /-- No word character before. -/
  | wordStartHalf (unicode : Bool)
  /-- No word character after. -/
  | wordEndHalf (unicode : Bool)
  deriving DecidableEq, Repr

def asciiWord : CharClass :=
  .ofRanges [('a', 'z'), ('A', 'Z'), ('0', '9'), ('_', '_')]

def isWordAt (unicode : Bool) : Option Char → Bool
  | some c => if unicode then Unicode.word.contains c else asciiWord.contains c
  | none => false

/-- Whether the condition holds between two characters; none stands for an end of the text. -/
def Boundary.holds (b : Boundary) (before after : Option Char) : Bool :=
  match b with
  | .textStart => before.isNone
  | .textEnd => after.isNone
  | .lineStart => before.isNone || before == some '\n'
  | .lineEnd => after.isNone || after == some '\n'
  | .anyLineStart =>
    before.isNone || before == some '\n' || (before == some '\r' && after != some '\n')
  | .anyLineEnd =>
    after.isNone || after == some '\r' || (after == some '\n' && before != some '\r')
  | .word u => isWordAt u before != isWordAt u after
  | .notWord u => isWordAt u before == isWordAt u after
  | .wordStart u => !isWordAt u before && isWordAt u after
  | .wordEnd u => isWordAt u before && !isWordAt u after
  | .wordStartHalf u => !isWordAt u before
  | .wordEndHalf u => !isWordAt u after

/-- What a pattern means. -/
inductive Expr where
  /-- The empty text. -/
  | nothing
  /-- One character of a class. -/
  | one (c : CharClass)
  | edge (b : Boundary)
  | seq (p q : Expr)
  | alt (p q : Expr)
  /-- At least `least` times, and at most `most` times if there is a bound. -/
  | repeated (p : Expr) (least : Nat) (most : Option Nat)

namespace Expr

/-- Expressions one after the other. -/
def seqOf (ps : List Expr) : Expr :=
  match ps with
  | [] => .nothing
  | [p] => p
  | p :: ps => .seq p (seqOf ps)

def altOf (ps : List Expr) : Expr :=
  match ps with
  | [] => .nothing
  | [p] => p
  | p :: ps => .alt p (altOf ps)

/-- An estimate of the bytes that a matcher needs for an expression. -/
def cost : Expr → Nat
  | .nothing => 32
  | .one c => 32 + 60 * c.size
  | .edge _ => 32
  | .seq p q => p.cost + q.cost
  | .alt p q => p.cost + q.cost + 64
  | .repeated p least none => max least 1 * p.cost + 64
  | .repeated p least (some most) => least * p.cost + (most - least) * (p.cost + 64)

end Expr

end BundleGraph.Pattern
