import BundleGraph.Text.CharSet

/-!
# Maps from characters to characters

A map is a list of ranges of code points in increasing order.  In a range, every other
code point moves by one distance and those between by another, so alternating capital and
small letters are one range.  Characters in no range stay.  A map is written as text:
`41:5a+20` moves the capital letters of ASCII by 20 to base sixteen, and `100:12f+1,-1` swaps
neighbours.

## Main definitions

* `CaseMap.ofLines` — reads the ranges.
* `CaseMap.apply` — the character that a character becomes.
-/

namespace BundleGraph.Text

/-- A range of code points, and how far they move. -/
structure CaseRange where
  lo : Nat
  hi : Nat
  /-- The distance of the first code point, the third and so on. -/
  even : Int
  /-- The distance of the others. -/
  odd : Int

/-- A map from characters to characters. -/
structure CaseMap where
  ranges : Array CaseRange

namespace CaseMap

/-- The number written to base sixteen. -/
def hexValue (cs : List Char) : Nat :=
  cs.foldl (fun n c => n * 16 + (CharSet.hexDigit? c).getD 0) 0

/-- The distance written with its sign. -/
def distance : List Char → Int
  | '-' :: cs => -(hexValue cs)
  | cs => hexValue cs

/-- The range that a word writes. -/
def rangeOf (word : List Char) : CaseRange :=
  let isHex := fun c => (CharSet.hexDigit? c).isSome
  let lo := hexValue (word.takeWhile isHex)
  let (hi, r) :=
    match word.dropWhile isHex with
    | ':' :: r => (hexValue (r.takeWhile isHex), r.dropWhile isHex)
    | r => (lo, r)
  let even := distance (r.takeWhile (· != ','))
  match r.dropWhile (· != ',') with
  | _ :: odd => { lo, hi, even, odd := distance odd }
  | [] => { lo, hi, even, odd := even }

/-- The words of a text between its blanks, each with its last character first. -/
def wordsOf (text : String) : List (List Char) :=
  text.foldl (fun ws c =>
    if c = ' ' then [] :: ws
    else
      match ws with
      | w :: ws => (c :: w) :: ws
      | [] => [[c]]) [[]]

/-- The map written by lines of words. -/
def ofLines (lines : List String) : CaseMap :=
  ⟨(lines.flatMap fun l => (wordsOf l).reverse.map fun w => rangeOf w.reverse).toArray⟩

/-- Looks for the range of `n` among those with index in `[lo, hi)`. -/
def searchFrom (ranges : Array CaseRange) (n lo hi : Nat) : Option CaseRange :=
  if _h : lo < hi then
    let mid := (lo + hi) / 2
    match ranges[mid]? with
    | none => none
    | some r =>
      if n < r.lo then searchFrom ranges n lo mid
      else if r.hi < n then searchFrom ranges n (mid + 1) hi
      else some r
  else none
termination_by hi - lo

/-- The code point that a code point becomes. -/
def applyCode (m : CaseMap) (n : Nat) : Nat :=
  match searchFrom m.ranges n 0 m.ranges.size with
  | some r => (n + (if (n - r.lo) % 2 = 0 then r.even else r.odd)).toNat
  | none => n

def apply (m : CaseMap) (c : Char) : Char :=
  Char.ofNat (m.applyCode c.toNat)

end CaseMap

end BundleGraph.Text
