import BundleGraph.Script.Token

/-!
# Numbers of a script

Only the extent of a number and whether it is well formed matter.  A separator must
stand between two digits, an exponent must have digits, and no name or digit may follow
a number directly.
-/

namespace BundleGraph.Script

/-- A number that was read: what follows it, and whether it is malformed. -/
structure NumberCut where
  rest : List Char
  big : Bool := false
  fault : Bool := false

/-- Digits in which a separator stands before a digit, after at least one digit. -/
def moreDigits (isDigit : Char → Bool) : List Char → NumberCut
  | '_' :: c :: r =>
    if isDigit c then moreDigits isDigit r else { rest := c :: r, fault := true }
  | '_' :: [] => { rest := [], fault := true }
  | c :: r => if isDigit c then moreDigits isDigit r else { rest := c :: r }
  | [] => { rest := [] }

/-- At least one digit. -/
def someDigits (isDigit : Char → Bool) : List Char → NumberCut
  | c :: r => if isDigit c then moreDigits isDigit r else { rest := c :: r, fault := true }
  | [] => { rest := [], fault := true }

/-- Joins the fault of an earlier part to a later one. -/
def NumberCut.after (n : NumberCut) (fault : Bool) : NumberCut :=
  { n with fault := fault || n.fault }

/-- A number may not be followed directly by a name or a digit. -/
def NumberCut.checkEnd (n : NumberCut) : NumberCut :=
  match n.rest with
  | c :: r =>
    if c.isDigit ∨ isNameStart c then { n with rest := r.dropWhile isNameStart, fault := true }
    else n
  | [] => n

/-- An exponent after its letter. -/
def exponent : List Char → NumberCut
  | '-' :: r => someDigits Char.isDigit r
  | '+' :: r => someDigits Char.isDigit r
  | r => someDigits Char.isDigit r

def exponent? : List Char → NumberCut
  | 'e' :: r => exponent r
  | 'E' :: r => exponent r
  | r => { rest := r }

/-- The part after a point that digits precede. -/
def fractionAfterDigits (cs : List Char) : NumberCut :=
  let frac : NumberCut :=
    match cs with
    | c :: r => if c.isDigit then moreDigits Char.isDigit r else { rest := cs }
    | [] => { rest := [] }
  ((exponent? frac.rest).after frac.fault).checkEnd

/-- The part after a point that starts a number. -/
def fractionFirst (cs : List Char) : NumberCut :=
  let frac := someDigits Char.isDigit cs
  ((exponent? frac.rest).after frac.fault).checkEnd

/-- A number of another base after its letter. -/
def basedNumber (isDigit : Char → Bool) (cs : List Char) : NumberCut :=
  let digits := someDigits isDigit cs
  if digits.fault then digits
  else match digits.rest with
  | 'n' :: r => NumberCut.checkEnd { rest := r, big := true }
  | _ => digits.checkEnd

/-- A number that starts with a zero and a digit: octal unless an eight or a nine occurs,
and only then with a fraction or an exponent. -/
def leadingZero (cs : List Char) : NumberCut :=
  let digits := cs.takeWhile Char.isDigit
  let rest := cs.dropWhile Char.isDigit
  let decimal := digits.any fun c => c = '8' ∨ c = '9'
  match decimal, rest with
  | true, '.' :: r => fractionAfterDigits r
  | true, 'e' :: r => exponent r
  | _, _ => NumberCut.checkEnd { rest }

/-- A number whose first digit `first` has been read. -/
def cutNumber (first : Char) (cs : List Char) : NumberCut :=
  if first = '0' then
    match cs with
    | 'b' :: r => basedNumber (fun c => c = '0' ∨ c = '1') r
    | 'B' :: r => basedNumber (fun c => c = '0' ∨ c = '1') r
    | 'o' :: r => basedNumber (fun c => '0' ≤ c ∧ c ≤ '7') r
    | 'O' :: r => basedNumber (fun c => '0' ≤ c ∧ c ≤ '7') r
    | 'x' :: r => basedNumber isHex r
    | 'X' :: r => basedNumber isHex r
    | 'e' :: r => exponent r
    | 'E' :: r => exponent r
    | '.' :: r => fractionAfterDigits r
    | 'n' :: r => NumberCut.checkEnd { rest := r, big := true }
    | c :: _ => if c.isDigit then leadingZero cs else NumberCut.checkEnd { rest := cs }
    | [] => { rest := [] }
  else
    let digits := moreDigits Char.isDigit cs
    match digits.rest with
    | '.' :: r => (fractionAfterDigits r).after digits.fault
    | 'n' :: r => NumberCut.checkEnd { rest := r, big := true, fault := digits.fault }
    | _ => ((exponent? digits.rest).after digits.fault).checkEnd
where
  /-- A digit to base sixteen. -/
  isHex (c : Char) : Bool :=
    c.isDigit || ('a' ≤ c && c ≤ 'f') || ('A' ≤ c && c ≤ 'F')

end BundleGraph.Script
