import BundleGraph.Json.Basic

/-!
# Reading JSON text

A value is read from text by the grammar of JSON.  An integer outside the range of 64 bits
and a number with a fraction or an exponent become floating-point numbers; of two entries
of an object with one key the later counts.

## Main definitions

* `Json.parse?` — the value of a text, if it is one.
-/

namespace BundleGraph.Json

def skipBlanks (cs : List Char) : List Char :=
  cs.dropWhile fun c => c = ' ' ∨ c = '\n' ∨ c = '\r' ∨ c = '\t'

/-- The value of a digit to base sixteen. -/
def hexOf? (c : Char) : Option Nat :=
  if c.isDigit then some (c.toNat - '0'.toNat)
  else if 'a' ≤ c ∧ c ≤ 'f' then some (c.toNat - 'a'.toNat + 10)
  else if 'A' ≤ c ∧ c ≤ 'F' then some (c.toNat - 'A'.toNat + 10)
  else none

/-- The value of four digits to base sixteen. -/
def hex4? (a b c d : Char) : Option Nat := do
  let a ← hexOf? a
  let b ← hexOf? b
  let c ← hexOf? c
  let d ← hexOf? d
  return ((a * 16 + b) * 16 + c) * 16 + d

/-- Reads a string after its first quote; the characters so far come latest first. -/
def readText : List Char → List Char → Option (String × List Char)
  | acc, '"' :: r => some (String.ofList acc.reverse, r)
  | acc, '\\' :: 'u' :: a :: b :: c :: d :: r =>
    match hex4? a b c d with
    | none => none
    | some hi =>
      if 0xd800 ≤ hi ∧ hi ≤ 0xdbff then
        match r with
        | '\\' :: 'u' :: a :: b :: c :: d :: r' =>
          match hex4? a b c d with
          | some lo =>
            if 0xdc00 ≤ lo ∧ lo ≤ 0xdfff then
              readText (Char.ofNat ((hi - 0xd800) * 0x400 + (lo - 0xdc00) + 0x10000) :: acc) r'
            else none
          | none => none
        | _ => none
      else if 0xdc00 ≤ hi ∧ hi ≤ 0xdfff then none
      else readText (Char.ofNat hi :: acc) r
  | acc, '\\' :: '"' :: r => readText ('"' :: acc) r
  | acc, '\\' :: '\\' :: r => readText ('\\' :: acc) r
  | acc, '\\' :: '/' :: r => readText ('/' :: acc) r
  | acc, '\\' :: 'b' :: r => readText ('\x08' :: acc) r
  | acc, '\\' :: 'f' :: r => readText ('\x0c' :: acc) r
  | acc, '\\' :: 'n' :: r => readText ('\n' :: acc) r
  | acc, '\\' :: 'r' :: r => readText ('\r' :: acc) r
  | acc, '\\' :: 't' :: r => readText ('\t' :: acc) r
  | _, '\\' :: _ => none
  | acc, c :: r => if c.toNat < 0x20 then none else readText (c :: acc) r
  | _, [] => none

/-- The number of a run of digits. -/
def digitsValue (cs : List Char) : Nat :=
  cs.foldl (fun n c => n * 10 + (c.toNat - '0'.toNat)) 0

/-- The part of a number after a point: its digits. -/
def readFraction (cs : List Char) : Option (List Char × List Char) :=
  match cs with
  | '.' :: r =>
    let ds := r.takeWhile Char.isDigit
    if ds.isEmpty then none else some (ds, r.dropWhile Char.isDigit)
  | _ => some ([], cs)

/-- The exponent of a number. -/
def readExponent (cs : List Char) : Option (Option Int × List Char) :=
  let unsigned := fun (sign : Int) (r : List Char) =>
    let ds := r.takeWhile Char.isDigit
    if ds.isEmpty then none
    else some (some (sign * digitsValue ds), r.dropWhile Char.isDigit)
  let signed := fun (r : List Char) =>
    match r with
    | '+' :: r => unsigned 1 r
    | '-' :: r => unsigned (-1) r
    | _ => unsigned 1 r
  match cs with
  | 'e' :: r => signed r
  | 'E' :: r => signed r
  | _ => some (none, cs)

/-- The floating-point number nearest to `± n * 10 ^ e`. -/
def nearest (negative : Bool) (n : Nat) (e : Int) : JsonNumber :=
  let x := Float.ofScientific n (e < 0) e.natAbs
  .real (if negative then -x else x).toBits

/-- Reads a number after its sign. -/
def readNumber (negative : Bool) (cs : List Char) : Option (Json × List Char) := do
  let whole := cs.takeWhile Char.isDigit
  if whole.isEmpty ∨ (whole.head? = some '0' ∧ whole.length > 1) then failure
  let (frac, r) ← readFraction (cs.dropWhile Char.isDigit)
  let (e, r) ← readExponent r
  let n := digitsValue whole
  if frac.isEmpty ∧ e.isNone then
    let fits := if negative then 0 < n ∧ n ≤ 0x8000000000000000 else n < 0x10000000000000000
    if fits then return (.num (.integer (if negative then -n else n)), r)
    else return (.num (nearest negative n 0), r)
  else
    return (.num (nearest negative (digitsValue (whole ++ frac)) (e.getD 0 - frac.length)), r)

/-- What is read next: a value, or what follows in an array or an object. -/
inductive Part where
  | value
  | items (done : List Json)
  | fields (done : List (String × Json))

/-- Reads a part; `fuel` bounds the number of parts. -/
def readPart : Nat → Part → List Char → Option (Json × List Char)
  | 0, _, _ => none
  | fuel + 1, .value, cs =>
    match skipBlanks cs with
    | 'n' :: 'u' :: 'l' :: 'l' :: r => some (.null, r)
    | 't' :: 'r' :: 'u' :: 'e' :: r => some (.bool true, r)
    | 'f' :: 'a' :: 'l' :: 's' :: 'e' :: r => some (.bool false, r)
    | '"' :: r => (readText [] r).map fun (s, r) => (.str s, r)
    | '-' :: r => readNumber true r
    | '[' :: r =>
      match skipBlanks r with
      | ']' :: r => some (.arr [], r)
      | r => readPart fuel (.items []) r
    | '{' :: r =>
      match skipBlanks r with
      | '}' :: r => some (.obj [], r)
      | r => readPart fuel (.fields []) r
    | r => readNumber false r
  | fuel + 1, .items done, cs =>
    match readPart fuel .value cs with
    | none => none
    | some (v, r) =>
      match skipBlanks r with
      | ',' :: r => readPart fuel (.items (v :: done)) r
      | ']' :: r => some (.arr (v :: done).reverse, r)
      | _ => none
  | fuel + 1, .fields done, cs =>
    match skipBlanks cs with
    | '"' :: r =>
      match readText [] r with
      | none => none
      | some (k, r) =>
        match skipBlanks r with
        | ':' :: r =>
          match readPart fuel .value r with
          | none => none
          | some (v, r) =>
            match skipBlanks r with
            | ',' :: r => readPart fuel (.fields ((k, v) :: done)) r
            | '}' :: r => some (ofFields ((k, v) :: done).reverse, r)
            | _ => none
        | _ => none
    | _ => none

def parse? (text : String) : Option Json :=
  let cs := text.toList
  match readPart (2 * cs.length + 2) .value cs with
  | some (v, r) => if (skipBlanks r).isEmpty then some v else none
  | none => none

end BundleGraph.Json
