/-!
# Decimal text of floating-point numbers

A number is written with the fewest digits that read back as the same number; of two such
decimals the nearer one is taken.  All arithmetic is exact, on natural numbers.

## Main definitions

* `Decimal.shortest` — the digits and the power of ten of a positive number.
* `Decimal.write` — the text: positional from `1e-5` up to `1e16`, with an exponent beyond.
-/

namespace BundleGraph.Decimal

/-- A positive number `mantissa * 2 ^ exponent`, and whether the gap below it is half the gap
above. -/
structure Binary where
  mantissa : Nat
  exponent : Int
  narrow : Bool

/-- The magnitude that 64 bits stand for. -/
def Binary.ofBits (bits : UInt64) : Binary :=
  let e : Nat := (bits.toNat / 0x10000000000000) % 0x800
  let f : Nat := bits.toNat % 0x10000000000000
  if e = 0 then { mantissa := f, exponent := -1074, narrow := false }
  else { mantissa := 0x10000000000000 + f, exponent := (e : Int) - 1075, narrow := f = 0 && e > 1 }

/-- Compares `a * 10 ^ k` with `b * 2 ^ q`. -/
def compareScaled (a : Nat) (k : Int) (b : Nat) (q : Int) : Ordering :=
  compare (a * Nat.pow 10 k.toNat * Nat.pow 2 (-q).toNat)
    (b * Nat.pow 2 q.toNat * Nat.pow 10 (-k).toNat)

/-- Whether the decimal `a * 10 ^ k` reads back as the number: it lies within half a gap, and
on the edge only if the mantissa is even. -/
def Binary.readsBack (v : Binary) (a : Nat) (k : Int) : Bool :=
  let low := if v.narrow then 4 * v.mantissa - 1 else 4 * v.mantissa - 2
  let high := 4 * v.mantissa + 2
  let even := v.mantissa % 2 = 0
  let aboveLow := match compareScaled a k low (v.exponent - 2) with
    | .gt => true
    | .eq => even
    | .lt => false
  let belowHigh := match compareScaled a k high (v.exponent - 2) with
    | .lt => true
    | .eq => even
    | .gt => false
  aboveLow && belowHigh

/-- The whole part of the number divided by `10 ^ k`. -/
def Binary.floorAt (v : Binary) (k : Int) : Nat :=
  (v.mantissa * Nat.pow 2 v.exponent.toNat * Nat.pow 10 (-k).toNat) /
    (Nat.pow 2 (-v.exponent).toNat * Nat.pow 10 k.toNat)

/-- The power of ten of the first digit, searched from `k` downwards. -/
def Binary.leading (v : Binary) : Nat → Int → Int
  | 0, k => k
  | n + 1, k => if v.floorAt k = 0 then v.leading n (k - 1) else k

/-- The nearest decimal at a power of ten that reads back, if there is one. -/
def Binary.at? (v : Binary) (k : Int) : Option Nat :=
  let a := v.floorAt k
  match v.readsBack a k && a ≠ 0, v.readsBack (a + 1) k with
  | true, false => some a
  | false, true => some (a + 1)
  | false, false => none
  | true, true =>
    -- compare twice the number with the sum of its two neighbours
    match compareScaled (2 * a + 1) k v.mantissa (v.exponent + 1) with
    | .gt => some a
    | .lt => some (a + 1)
    | .eq => some (if a % 2 = 0 then a else a + 1)

/-- The first grid, from coarse to fine, on which a decimal reads back. -/
def Binary.search (v : Binary) : Nat → Int → Nat × Int
  | 0, k => (v.floorAt k, k)
  | n + 1, k =>
    match v.at? k with
    | some a => (a, k)
    | none => v.search n (k - 1)

/-- Drops final zeros. -/
def trimZeros : Nat → Nat × Int → Nat × Int
  | 0, d => d
  | n + 1, (a, k) => if a ≠ 0 ∧ a % 10 = 0 then trimZeros n (a / 10, k + 1) else (a, k)

/-- The digits and the power of ten of the shortest decimal that reads back. -/
def shortest (v : Binary) : Nat × Int :=
  trimZeros 20 (v.search 17 (v.leading 640 309))

/-- Writes a positive decimal. -/
def layout (digits : Nat) (k : Int) : String :=
  let ds := Nat.repr digits
  let point := (ds.length : Int) + k
  if 0 ≤ k ∧ point ≤ 16 then ds ++ "".pushn '0' k.toNat ++ ".0"
  else if 0 < point ∧ point ≤ 16 then
    String.ofList (ds.toList.take point.toNat) ++ "." ++ String.ofList (ds.toList.drop point.toNat)
  else if -5 < point ∧ point ≤ 0 then "0." ++ "".pushn '0' (-point).toNat ++ ds
  else
    let frac := String.ofList (ds.toList.drop 1)
    let whole := String.ofList (ds.toList.take 1)
    let e := toString (point - 1)
    if frac.isEmpty then whole ++ "e" ++ e else whole ++ "." ++ frac ++ "e" ++ e

/-- The text of a finite number given by its bits. -/
def write (bits : UInt64) : String :=
  let sign := if bits.toNat ≥ 0x8000000000000000 then "-" else ""
  let v := Binary.ofBits bits
  if v.mantissa = 0 then sign ++ "0.0"
  else
    let (digits, k) := shortest v
    sign ++ layout digits k

end BundleGraph.Decimal
