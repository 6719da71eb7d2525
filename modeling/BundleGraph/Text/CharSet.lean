/-!
# Sets of characters given by ranges

A property of characters is a list of ranges of code points in increasing order,
written as text: `["41-5a 61-7a", "aa"]` holds the ASCII letters and one more.  Membership
is a binary search, so a property with hundreds of ranges costs a dozen comparisons.

## Main definitions

* `CharSet.ofLines` — reads the ranges.
* `CharSet.contains` — membership of a character.
-/

namespace BundleGraph.Text

/-- Ranges of code points, both ends included, in increasing order. -/
structure CharSet where
  ranges : Array (Nat × Nat)

namespace CharSet

/-- The value of a digit to base sixteen, small letters only. -/
def hexDigit? (c : Char) : Option Nat :=
  if '0' ≤ c ∧ c ≤ '9' then some (c.toNat - '0'.toNat)
  else if 'a' ≤ c ∧ c ≤ 'f' then some (c.toNat - 'a'.toNat + 10)
  else none

/-- State of the reader: the ranges so far, the start of the open range, the number being read. -/
structure Reading where
  done : Array (Nat × Nat) := #[]
  start : Option Nat := none
  value : Option Nat := none

/-- Ends the open range, if there is one. -/
def Reading.close (r : Reading) : Reading :=
  match r.start, r.value with
  | some lo, some hi => { done := r.done.push (lo, hi) }
  | none, some v => { done := r.done.push (v, v) }
  | _, none => { done := r.done }

/-- Takes one character of the written form. -/
def Reading.step (r : Reading) (c : Char) : Reading :=
  match hexDigit? c with
  | some d => { r with value := some (r.value.getD 0 * 16 + d) }
  | none => if c = '-' then { r with start := r.value, value := none } else r.close

/-- Takes one line of the written form; the end of a line ends a range. -/
def Reading.line (r : Reading) (text : String) : Reading :=
  (text.foldl Reading.step r).close

/-- The set written as ranges of hexadecimal code points, separated by blanks. -/
def ofLines (lines : List String) : CharSet :=
  ⟨(lines.foldl Reading.line {}).done⟩

/-- Looks for `n` among the ranges with index in `[lo, hi)`. -/
def searchFrom (ranges : Array (Nat × Nat)) (n lo hi : Nat) : Bool :=
  if _h : lo < hi then
    let mid := (lo + hi) / 2
    match ranges[mid]? with
    | none => false
    | some (a, b) =>
      if n < a then searchFrom ranges n lo mid
      else if b < n then searchFrom ranges n (mid + 1) hi
      else true
  else false
termination_by hi - lo

def containsCode (s : CharSet) (n : Nat) : Bool :=
  searchFrom s.ranges n 0 s.ranges.size

def contains (s : CharSet) (c : Char) : Bool :=
  s.containsCode c.toNat

end CharSet

end BundleGraph.Text
