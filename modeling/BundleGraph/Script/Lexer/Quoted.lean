import BundleGraph.Script.Token

/-!
# Quoted text and its escapes

A string or a stretch of a template is cut out first, up to the quote that ends it, and
its escapes are given their values after that.  An escape may stand for half of a
surrogate pair, so values are lists of code points that may hold such halves; a text
with a half that has no partner is written with the replacement character as a flag:
the flag and four digits for a half, the flag and `fffd` for the flag itself.

## Main definitions

* `cutString`, `cutTemplate` — the stretch before the end.
* `decode` — the code points a stretch stands for, or none if an escape has no value.
* `ofCodes` — the text of code points.
-/

namespace BundleGraph.Script

/-- The value of a digit to base sixteen. -/
def hexValue? (c : Char) : Option Nat :=
  if c.isDigit then some (c.toNat - '0'.toNat)
  else if 'a' ≤ c ∧ c ≤ 'f' then some (c.toNat - 'a'.toNat + 10)
  else if 'A' ≤ c ∧ c ≤ 'F' then some (c.toNat - 'A'.toNat + 10)
  else none

/-- Whether a code point is half of a surrogate pair. -/
def isSurrogate (n : Nat) : Bool :=
  0xd800 ≤ n && n ≤ 0xdfff

/-- The stretch of a string before the quote `q`, and what follows the quote; none if
the line or the text ends first. -/
def cutString (q : Char) : List Char → List Char → Option (List Char × List Char)
  | _, [] => none
  | acc, '\\' :: '\r' :: '\n' :: r => cutString q ('\n' :: '\r' :: '\\' :: acc) r
  | acc, '\\' :: c :: r => cutString q (c :: '\\' :: acc) r
  | acc, c :: r =>
    if c = q then some (acc.reverse, r)
    else if c = '\n' ∨ c = '\r' then none
    else cutString q (c :: acc) r

/-- A stretch of a template. -/
structure TemplateCut where
  body : List Char
  rest : List Char
  /-- Whether the template ends here, and not at a substitution. -/
  last : Bool

/-- The stretch of a template before its end or its next substitution. -/
def cutTemplate : List Char → List Char → Option TemplateCut
  | _, [] => none
  | acc, '\\' :: c :: r => cutTemplate (c :: '\\' :: acc) r
  | acc, '`' :: r => some ⟨acc.reverse, r, true⟩
  | acc, '$' :: '{' :: r => some ⟨acc.reverse, r, false⟩
  | acc, c :: r => cutTemplate (c :: acc) r

/-- Reads digits to base sixteen up to the closing brace; none beyond the last code point. -/
def bracedCode : Nat → Nat → List Char → Option (Nat × List Char)
  | value, count, '}' :: r => if count = 0 then none else some (value, r)
  | value, count, c :: r =>
    match hexValue? c with
    | some d =>
      if value * 16 + d > 0x10ffff then none else bracedCode (value * 16 + d) (count + 1) r
    | none => none
  | _, _, [] => none

/-- Reads four digits to base sixteen. -/
def fourDigits : List Char → Option (Nat × List Char)
  | a :: b :: c :: d :: r =>
    match hexValue? a, hexValue? b, hexValue? c, hexValue? d with
    | some a, some b, some c, some d => some (((a * 16 + b) * 16 + c) * 16 + d, r)
    | _, _, _, _ => none
  | _ => none

/-- The code point of an escape after its `u`: braced, or four digits. -/
def unicodeEscape : List Char → Option (Nat × List Char)
  | '{' :: r => bracedCode 0 0 r
  | r => fourDigits r

/-- The code point of an escape after its `u` inside quotes, where two escapes of four
digits may form a pair. -/
def pairedEscape (cs : List Char) : Option (Nat × List Char) :=
  match cs with
  | '{' :: r => bracedCode 0 0 r
  | _ =>
    match fourDigits cs with
    | none => none
    | some (hi, r) =>
      if 0xd800 ≤ hi ∧ hi ≤ 0xdbff then
        match r with
        | '\\' :: 'u' :: r' =>
          match fourDigits r' with
          | some (lo, r'') =>
            if 0xdc00 ≤ lo ∧ lo ≤ 0xdfff then
              some ((hi - 0xd800) * 0x400 + (lo - 0xdc00) + 0x10000, r'')
            else some (hi, r)
          | none => some (hi, r)
        | _ => some (hi, r)
      else some (hi, r)

/-- Whether a character is a digit to base eight. -/
def isOctal (c : Char) : Bool :=
  '0' ≤ c && c ≤ '7'

/-- The value of a run of digits to base eight. -/
def octalValue (cs : List Char) : Nat :=
  cs.foldl (fun n c => n * 8 + (c.toNat - '0'.toNat)) 0

/-- An octal escape: three digits if the first is below four, else two. -/
def octalEscape (first : Char) (r : List Char) : Nat × List Char :=
  let more := if first ≤ '3' then 2 else 1
  let digits := (r.take more).takeWhile isOctal
  (octalValue (first :: digits), r.drop digits.length)

/-- The values of one escape, after its backslash, and what follows; none if it has none. -/
def escape (inTemplate : Bool) : List Char → Option (List Nat × List Char)
  | [] => none
  | '\r' :: '\n' :: r => some ([], r)
  | 'x' :: a :: b :: r =>
    match hexValue? a, hexValue? b with
    | some a, some b => some ([a * 16 + b], r)
    | _, _ => none
  | c :: r =>
    if isLineEnd c then some ([], r)
    else match c with
    | 'b' => some ([8], r)
    | 'f' => some ([12], r)
    | 'n' => some ([10], r)
    | 'r' => some ([13], r)
    | 't' => some ([9], r)
    | 'v' => some ([11], r)
    | 'x' => none
    | 'u' => (pairedEscape r).map fun (n, r') => ([n], r')
    | _ =>
      if inTemplate then
        if c = '0' ∧ ¬ (r.head?.any Char.isDigit) then some ([0], r)
        else if c.isDigit then none
        else some ([c.toNat], r)
      else if isOctal c then
        let (n, r') := octalEscape c r
        some ([n], r')
      else some ([c.toNat], r)

/-- The code points of a stretch, latest first; `fuel` bounds the number of characters
and escapes. -/
def decodeFrom (inTemplate : Bool) : Nat → List Nat → List Char → Option (List Nat)
  | _, acc, [] => some acc
  | 0, _, _ => none
  | fuel + 1, acc, '\\' :: r =>
    match escape inTemplate r with
    | some (codes, r') => decodeFrom inTemplate fuel (codes ++ acc) r'
    | none => none
  | fuel + 1, acc, c :: r => decodeFrom inTemplate fuel (c.toNat :: acc) r

/-- The code points a stretch of quoted text stands for. -/
def decode (inTemplate : Bool) (body : List Char) : Option (List Nat) :=
  (decodeFrom inTemplate body.length [] body).map List.reverse

/-- A number below 16⁴ in four digits to base sixteen. -/
def fourHex (n : Nat) : List Char :=
  [n / 4096, n / 256, n / 16, n].map fun d => Nat.digitChar (d % 16)

/-- The text of code points.  If a half of a surrogate pair stands alone, it and every
replacement character are flagged. -/
def ofCodes (codes : List Nat) : String :=
  if codes.any isSurrogate then
    String.ofList (codes.flatMap fun n =>
      if isSurrogate n ∨ n = 0xfffd then '\ufffd' :: fourHex n else [Char.ofNat n])
  else String.ofList (codes.map Char.ofNat)

end BundleGraph.Script
