import BundleGraph.Pattern.Tree
import BundleGraph.Text.Blank

/-!
# Reading a pattern

Readers work on the rest of a pattern under flags that the pattern itself can set.  A
reader that fails makes the whole pattern invalid; there is no going back.

## Main definitions

* `Flags` — what a pattern can set for a stretch of itself.
* `Reader` — a computation on the rest of a pattern.
* `readEscape` — what a backslash introduces.
-/

namespace BundleGraph.Pattern

open Text (isBlank)

/-- What a pattern can set for a stretch of itself. -/
structure Flags where
  ignoreCase : Bool := false
  /-- Whether `^` and `$` hold at every line. -/
  multiLine : Bool := false
  /-- Whether `.` reads the end of a line. -/
  dotAll : Bool := false
  /-- Whether a carriage return ends a line too. -/
  anyLineEnd : Bool := false
  unicode : Bool := true
  /-- Whether blanks and comments in the pattern do not count. -/
  verbose : Bool := false

/-- Where the reading of a pattern stands. -/
structure ReaderState where
  rest : List Char
  flags : Flags := {}
  /-- The names of groups so far. -/
  names : List String := []

/-- A computation on the rest of a pattern. -/
abbrev Reader := StateT ReaderState Option

def rest : Reader (List Char) :=
  return (← get).rest

def setRest (cs : List Char) : Reader Unit :=
  modify fun s => { s with rest := cs }

def flags : Reader Flags :=
  return (← get).flags

def setFlags (f : Flags) : Reader Unit :=
  modify fun s => { s with flags := f }

/-- The next character, which has to be there. -/
def peek : Reader Char := do
  match ← rest with
  | c :: _ => return c
  | [] => failure

/-- Passes over one character. -/
def skipOne : Reader Unit := do
  setRest ((← rest).drop 1)

/-- The text without the blanks and comments it starts with; `comment` tells that one is open. -/
def dropComments (comment : Bool) : List Char → List Char
  | [] => []
  | c :: cs =>
    if comment then dropComments (c != '\n') cs
    else if isBlank c then dropComments false cs
    else if c = '#' then dropComments true cs
    else c :: cs

/-- Passes over blanks and comments where they do not count. -/
def skipSpace : Reader Unit := do
  if (← flags).verbose then setRest (dropComments false (← rest)) else pure ()

/-- Passes over one character and what does not count after it. -/
def skip : Reader Unit := do
  skipOne
  skipSpace

/-- Reads a text if it is there. -/
def eat (text : List Char) : Reader Bool := do
  let cs ← rest
  if text.isPrefixOf cs then
    setRest (cs.drop text.length)
    return true
  else return false

/-- Goes on only if a condition holds. -/
def require (b : Bool) : Reader Unit :=
  if b then pure () else failure

/-! ## Escapes -/

/-- What stands for itself in a pattern. -/
inductive Primitive where
  /-- A character; `byte` when it is written as a byte. -/
  | literal (c : Char) (byte : Bool)
  | charClass (c : CharClass)
  | edge (b : Boundary)

/-- Characters with a meaning in patterns. -/
def isMeta (c : Char) : Bool :=
  "\\.+*?()|[]\x7b\x7d^$#&-~".toList.contains c

/-- Characters that may follow a backslash and mean themselves. -/
def isEscapable (c : Char) : Bool :=
  isMeta c || (decide (c.toNat < 0x80) && !c.isAlphanum && c != '<' && c != '>')

/-- The value of a digit to base sixteen. -/
def hexOf? (c : Char) : Option Nat :=
  Text.CharSet.hexDigit? c.toLower

/-- The character of a code point. -/
def charOf (n : Nat) : Reader Char :=
  if h : n.isValidChar then return Char.ofNatAux n h else failure

/-- Reads digits to base sixteen, as many as told. -/
def readDigits : Nat → Nat → Reader Nat
  | 0, value => return value
  | n + 1, value => do
    match hexOf? (← peek) with
    | none => failure
    | some d =>
      skip
      readDigits n (value * 16 + d)

/-- Reads digits to base sixteen up to a closing brace, at most `fuel` of them. -/
def readBraced : Nat → List Nat → Reader (List Nat)
  | 0, _ => failure
  | fuel + 1, digits => do
    let c ← peek
    if c = '}' then
      skip
      return digits.reverse
    else
      match hexOf? c with
      | none => failure
      | some d =>
        skip
        readBraced fuel (d :: digits)

/-- The value of digits to base sixteen. -/
def valueOf (digits : List Nat) : Nat :=
  digits.foldl (fun n d => n * 16 + d) 0

/-- Reads a character by its code point, after `x`, `u` or `U`. -/
def readCode (letter : Char) : Reader Primitive := do
  skip
  if (← peek) = '{' then
    skip
    let digits ← readBraced ((← rest).length + 1) []
    require (!digits.isEmpty)
    return .literal (← charOf (valueOf digits)) false
  else
    let count := if letter = 'x' then 2 else if letter = 'u' then 4 else 8
    let value ← readDigits count 0
    return .literal (← charOf value) (letter = 'x')

/-- Reads the name of a property up to a closing brace; blanks count only where told. -/
def readName : Nat → List Char → Reader (List Char)
  | 0, _ => failure
  | fuel + 1, name => do
    let c ← peek
    if c = '}' then
      skipOne
      return name.reverse
    else
      skip
      readName fuel (c :: name)

/-- The parts of a text around the first place where `sep` stands. -/
def splitAt? (sep : List Char) : List Char → Option (List Char × List Char)
  | [] => none
  | c :: cs =>
    if sep.isPrefixOf (c :: cs) then some ([], (c :: cs).drop sep.length)
    else (splitAt? sep cs).map fun p => (c :: p.1, p.2)

/-- The class of a name in braces, and whether it is negated by its sign. -/
def namedClass? (name : List Char) : Option (CharClass × Bool) :=
  match splitAt? ['!', '='] name with
  | some (p, v) => (Unicode.byValue? p v).map (·, true)
  | none =>
    match splitAt? [':'] name with
    | some (p, v) => (Unicode.byValue? p v).map (·, false)
    | none =>
      match splitAt? ['='] name with
      | some (p, v) => (Unicode.byValue? p v).map (·, false)
      | none => (Unicode.byName? name).map (·, false)

/-- A class with case ignored, if the flags say so, and then negated, if told. -/
def foldAndNegate (negated : Bool) (c : CharClass) : Reader CharClass := do
  let f ← flags
  let c := if f.ignoreCase then
    (if f.unicode then .folded c else .both (.folded c) .ascii) else c
  -- Without Unicode, a negated class would hold parts of characters.
  require (f.unicode || !negated)
  return if negated then .complement c else c

/-- Reads a property of characters, after `p` or `P`. -/
def readProperty (negated : Bool) : Reader Primitive := do
  skip
  require (← flags).unicode
  let c ← peek
  if c = '{' then
    skip
    match namedClass? (← readName ((← rest).length + 1) []) with
    | none => failure
    | some (k, unequal) => return .charClass (← foldAndNegate (negated != unequal) k)
  else
    require (c != '\\')
    skip
    match Unicode.byName? [c] with
    | none => failure
    | some k => return .charClass (← foldAndNegate negated k)

def asciiSpace : CharClass :=
  .ofRanges [('\t', '\r'), (' ', ' ')]

/-- The class of a letter after a backslash, in small form. -/
def shorthandClass (unicode : Bool) (letter : Char) : CharClass :=
  match letter, unicode with
  | 'd', true => Unicode.digit
  | 'd', false => .ofRanges [('0', '9')]
  | 's', true => Unicode.whiteSpace
  | 's', false => asciiSpace
  | _, true => Unicode.word
  | _, false => asciiWord

/-- Reads the rest of a condition on words, after `\b`. -/
def readWordBoundary : Reader Boundary := do
  let u := (← flags).unicode
  match ← rest with
  | '{' :: cs =>
    let f ← flags
    let cs := if f.verbose then dropComments false cs else cs
    let inName := fun (c : Char) => c.isAlpha || c == '-'
    match cs with
    | [] => failure
    | c :: _ =>
      if inName c then
        -- Blanks between the letters do not count where comments are allowed.
        let name := cs.takeWhile fun c => inName c || (f.verbose && isBlank c)
        setRest (cs.drop name.length)
        require (← eat ['}'])
        match String.ofList (name.filter inName) with
        | "start" => return .wordStart u
        | "end" => return .wordEnd u
        | "start-half" => return .wordStartHalf u
        | "end-half" => return .wordEndHalf u
        | _ => failure
      else return .word u
  | _ => return .word u

/-- Reads what a backslash introduces, after the backslash. -/
def readEscape : Reader Primitive := do
  let f ← flags
  let c ← peek
  if c = 'x' ∨ c = 'u' ∨ c = 'U' then readCode c
  else if c = 'p' ∨ c = 'P' then readProperty (c = 'P')
  else
    skipOne
    if c = 'd' ∨ c = 's' ∨ c = 'w' then return .charClass (shorthandClass f.unicode c)
    else if c = 'D' ∨ c = 'S' ∨ c = 'W' then
      require f.unicode
      return .charClass (.complement (shorthandClass true c.toLower))
    else if isEscapable c then return .literal c false
    else
      match c with
      | 'a' => return .literal '\x07' false
      | 'f' => return .literal '\x0c' false
      | 't' => return .literal '\t' false
      | 'n' => return .literal '\n' false
      | 'r' => return .literal '\r' false
      | 'v' => return .literal '\x0b' false
      | 'A' => return .edge .textStart
      | 'z' => return .edge .textEnd
      | 'b' => return .edge (← readWordBoundary)
      | 'B' => return .edge (.notWord f.unicode)
      | '<' => return .edge (.wordStart f.unicode)
      | '>' => return .edge (.wordEnd f.unicode)
      | _ => failure

end BundleGraph.Pattern
