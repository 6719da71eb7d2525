import BundleGraph.Toml.Text

/-!
# Numbers and dates of a TOML document

## Main definitions

* `integer?` — the integer that a word writes.
* `real?` — the floating-point number that a word writes.
* `date?` — the date, time or both that a text starts with.
-/

namespace BundleGraph.Toml

/-! ## Numbers -/

/-- The digits of a word, if low lines stand only between digits. -/
def digits? (isDigit : Char → Bool) : List Char → Option (List Char)
  | [] => none
  | [c] => if isDigit c then some [c] else none
  | c :: '_' :: r => if isDigit c then (digits? isDigit r).map (c :: ·) else none
  | c :: r => if isDigit c then (digits? isDigit r).map (c :: ·) else none

/-- The value of digits to a base. -/
def valueOf (base : Nat) (ds : List Char) : Nat :=
  ds.foldl (fun n c => n * base + (Json.hexOf? c).getD 0) 0

/-- The digits of a number to base ten without a sign; a zero does not start a longer one. -/
def decimal? (cs : List Char) : Option (List Char) :=
  match cs with
  | ['0'] => some ['0']
  | '0' :: _ => none
  | _ => digits? Char.isDigit cs

/-- The number without its sign, and whether the sign is a minus. -/
def unsigned (cs : List Char) : Bool × List Char :=
  match cs with
  | '-' :: r => (true, r)
  | '+' :: r => (false, r)
  | _ => (false, cs)

/-- The integer, if it is in the range of 64 bits. -/
def inRange? (n : Int) : Option Json :=
  if -0x8000000000000000 ≤ n ∧ n < 0x8000000000000000 then some (.ofInt n) else none

def integer? (word : List Char) : Option Json :=
  match word with
  | '0' :: 'x' :: r =>
    (digits? (fun c => (Json.hexOf? c).isSome) r).bind fun ds => inRange? (valueOf 16 ds)
  | '0' :: 'o' :: r =>
    (digits? (fun c => '0' ≤ c && c ≤ '7') r).bind fun ds => inRange? (valueOf 8 ds)
  | '0' :: 'b' :: r =>
    (digits? (fun c => c == '0' || c == '1') r).bind fun ds => inRange? (valueOf 2 ds)
  | _ =>
    let (negative, r) := unsigned word
    (decimal? r).bind fun ds =>
      let n : Int := valueOf 10 ds
      inRange? (if negative then -n else n)

/-- The exponent of a number, after its letter. -/
def exponent? (cs : List Char) : Option Int :=
  let (negative, r) := unsigned cs
  (digits? Char.isDigit r).map fun ds =>
    let n : Int := valueOf 10 ds
    if negative then -n else n

/-- A floating-point number as a value, unless it is infinite. -/
def finite? (x : Float) : Option Json :=
  if x.isInf then none else some (.num (.real x.toBits))

/-- The floating-point number that a word writes. -/
def real? (word : List Char) : Option Json :=
  let (negative, r) := unsigned word
  let signed := fun (x : Float) => if negative then -x else x
  if r = ['i', 'n', 'f'] then some (.num (.real (signed (1.0 / 0.0)).toBits))
  else if r = ['n', 'a', 'n'] then some (.num (.real (signed (0.0 / 0.0)).toBits))
  else
    let isMark := fun (c : Char) => c == '.' || c == 'e' || c == 'E'
    let whole := r.takeWhile (!isMark ·)
    let after := r.drop whole.length
    let fraction := match after with
      | '.' :: f => some (f.takeWhile (!isMark ·))
      | _ => none
    let after := match fraction with
      | some f => after.drop (f.length + 1)
      | none => after
    match decimal? whole with
    | none => none
    | some ws =>
      match fraction.map (digits? Char.isDigit) with
      | some none => none
      | some (some fs) =>
        match after with
        | [] => finite? (signed (scaled (ws ++ fs) (-fs.length)))
        | e :: r =>
          if e = '.' then none
          else (exponent? r).bind fun n => finite? (signed (scaled (ws ++ fs) (n - fs.length)))
      | none =>
        match after with
        | [] => none
        | _ :: r => (exponent? r).bind fun n => finite? (signed (scaled ws n))
where
  /-- The number nearest to some digits times a power of ten. -/
  scaled (ds : List Char) (e : Int) : Float :=
    Float.ofScientific (valueOf 10 ds) (e < 0) e.natAbs

/-! ## Dates and times -/

/-- A number of as many digits as told, in bounds, and what follows. -/
def field? (count lo hi : Nat) (cs : List Char) : Option (Nat × List Char) :=
  let ds := cs.take count
  let n := valueOf 10 ds
  if ds.length = count ∧ ds.all Char.isDigit ∧ lo ≤ n ∧ n ≤ hi then some (n, cs.drop count)
  else none

/-- What follows a character, if it is there. -/
def after? (c : Char) : List Char → Option (List Char)
  | x :: r => if x = c then some r else none
  | [] => none

def daysOf (year month : Nat) : Nat :=
  if month = 2 then
    (if year % 4 = 0 ∧ (year % 100 ≠ 0 ∨ year % 400 = 0) then 29 else 28)
  else if month = 4 ∨ month = 6 ∨ month = 9 ∨ month = 11 then 30
  else 31

/-- The date that a text starts with, as written, and what follows. -/
def day? (cs : List Char) : Option (List Char × List Char) := do
  let (year, r) ← field? 4 0 9999 cs
  let r ← after? '-' r
  let (month, r) ← field? 2 1 12 r
  let r ← after? '-' r
  let (_, r) ← field? 2 1 (daysOf year month) r
  return (cs.take 10, r)

/-- The fraction of a second, with nine digits at most and without zeros at its end. -/
def fractionText (ds : List Char) : List Char :=
  match ((ds.take 9).reverse.dropWhile (· == '0')).reverse with
  | [] => []
  | ds => '.' :: ds

/-- The time that a text starts with, in normal form, and what follows. -/
def clock? (cs : List Char) : Option (List Char × List Char) := do
  let (_, r) ← field? 2 0 23 cs
  let r ← after? ':' r
  let (_, r) ← field? 2 0 59 r
  let r ← after? ':' r
  let (_, r) ← field? 2 0 60 r
  match r with
  | '.' :: f =>
    let ds := f.takeWhile Char.isDigit
    if ds.isEmpty then none else some (cs.take 8 ++ fractionText ds, f.drop ds.length)
  | _ => some (cs.take 8, r)

/-- The offset that a text starts with, in normal form, and what follows. -/
def offset? (cs : List Char) : Option (List Char × List Char) :=
  match cs with
  | 'Z' :: r => some (['Z'], r)
  | 'z' :: r => some (['Z'], r)
  | sign :: r =>
    if sign = '+' ∨ sign = '-' then do
      let (_, r') ← field? 2 0 23 r
      let r' ← after? ':' r'
      let (_, r') ← field? 2 0 59 r'
      return (cs.take 6, r')
    else none
  | [] => none

/-- What follows the mark between a date and a time, if a time follows. -/
def separated? : List Char → Option (List Char)
  | 'T' :: r => some r
  | 't' :: r => some r
  | ' ' :: c :: r => if c.isDigit then some (c :: r) else none
  | _ => none

/-- The date, time or both that a text starts with, in normal form, and what follows. -/
def date? (cs : List Char) : Option (List Char × List Char) :=
  match day? cs with
  | none => clock? cs
  | some (day, r) =>
    match separated? r with
    | none => some (day, r)
    | some t =>
      (clock? t).map fun (clock, r) =>
        match offset? r with
        | some (offset, r) => (day ++ 'T' :: clock ++ offset, r)
        | none => (day ++ 'T' :: clock, r)

/-- The value of a date: a table with one entry. -/
def dateValue (text : List Char) : Json :=
  .obj [("$__toml_private_datetime", .str (String.ofList text))]

end BundleGraph.Toml
