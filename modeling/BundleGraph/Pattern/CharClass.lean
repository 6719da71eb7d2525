import BundleGraph.Text.CharSet
import BundleGraph.Unicode.Fold

/-!
# Classes of characters

A class is built from ranges and tables by the operations on sets, and by ignoring case.
It is kept as it is built, and membership is decided from the parts.

## Main definitions

* `CharClass.contains` — membership.
* `CharClass.size` — how large the class is to a matcher.
-/

namespace BundleGraph

open Text

/-- A class of characters. -/
inductive CharClass where
  | empty
  /-- The code points between two, both included. -/
  | range (lo hi : Nat)
  | table (members : CharSet)
  | complement (c : CharClass)
  | union (a b : CharClass)
  | both (a b : CharClass)
  | less (a b : CharClass)
  /-- The members of exactly one of two classes. -/
  | differing (a b : CharClass)
  /-- With every character that equals a member when case is ignored. -/
  | folded (c : CharClass)

namespace CharClass

def contains : CharClass → Char → Bool
  | .empty, _ => false
  | .range lo hi, x => lo ≤ x.toNat && x.toNat ≤ hi
  | .table members, x => members.contains x
  | .complement c, x => !c.contains x
  | .union a b, x => a.contains x || b.contains x
  | .both a b, x => a.contains x && b.contains x
  | .less a b, x => a.contains x && !b.contains x
  | .differing a b, x => a.contains x != b.contains x
  | .folded c, x => (Unicode.variants x).any c.contains

def single (c : Char) : CharClass :=
  .range c.toNat c.toNat

def all : CharClass :=
  .complement .empty

def ascii : CharClass :=
  .range 0 0x7f

/-- The members of any of some classes. -/
def unionOf (cs : List CharClass) : CharClass :=
  cs.foldr .union .empty

/-- The members of any of some tables. -/
def ofTables (ts : List CharSet) : CharClass :=
  unionOf (ts.map .table)

def ofRanges (rs : List (Char × Char)) : CharClass :=
  unionOf (rs.map fun r => .range r.1.toNat r.2.toNat)

/-- An upper estimate of the number of ranges. -/
def size : CharClass → Nat
  | .empty => 0
  | .range _ hi => if hi < 0x80 then 0 else 1
  | .table members => members.ranges.size
  | .complement c => c.size + 1
  | .union a b => a.size + b.size
  | .both a b => max a.size b.size
  | .less a b => a.size + b.size
  | .differing a b => a.size + b.size
  | .folded c => c.size

end CharClass

end BundleGraph
