import BundleGraph.Json.Reader
import BundleGraph.Text.Ascii
import BundleGraph.Text.Blank

/-!
# Settings from environment variables

The name of a variable gives the key: what follows a prefix, in small letters, with dots
between the keys of nested tables.  The value is read as a truth value, a number, a text
in quotes, a list in brackets or a table in braces; a value that is none of these is the
text as it is.

## Main definitions

* `Variable.valueOf` — the value of a text.
* `Variable.keys?` — the keys of a name.
* `Variable.nest` — the table in which a value stands under keys.
-/

namespace BundleGraph.Variable

/-- A computation on the rest of a value. -/
abbrev Reader := StateT (List Char) Option

/-- Reads a text if it is there. -/
def eat (text : List Char) : Reader Bool := do
  let cs ← get
  if text.isPrefixOf cs then
    set (cs.drop text.length)
    return true
  else return false

/-- Reads a text that has to be there. -/
def expect (text : List Char) : Reader Unit := do
  if ← eat text then pure () else failure

/-- Passes over blanks of a line. -/
def skipBlanks : Reader Unit :=
  modify (·.dropWhile fun c => c == ' ' || c == '\t')

/-! ## Texts -/

/-- The character of a number of digits to base sixteen, and what follows. -/
def codeOf? (count : Nat) (cs : List Char) : Option (Char × List Char) :=
  let ds := cs.take count
  match ds.mapM Json.hexOf? with
  | some values =>
    let n := values.foldl (fun n d => n * 16 + d) 0
    if ds.length = count ∧ n.isValidChar then some (Char.ofNat n, cs.drop count) else none
  | none => none

/-- The character that an escape stands for, after its backslash, and what follows. -/
def escape? : List Char → Option (Char × List Char)
  | '"' :: r => some ('"', r)
  | '\\' :: r => some ('\\', r)
  | 'b' :: r => some ('\x08', r)
  | 't' :: r => some ('\t', r)
  | 'n' :: r => some ('\n', r)
  | 'f' :: r => some ('\x0c', r)
  | 'r' :: r => some ('\r', r)
  | 'u' :: r => codeOf? 4 r
  | 'U' :: r => codeOf? 8 r
  | _ => none

/-- Reads a text after its quote; the characters so far come latest first. -/
def readQuoted : Nat → List Char → Reader String
  | 0, _ => failure
  | fuel + 1, acc => do
    match ← get with
    | '"' :: r =>
      set r
      return String.ofList acc.reverse
    | '\\' :: r =>
      match escape? r with
      | some (c, r) =>
        set r
        readQuoted fuel (c :: acc)
      | none => failure
    | c :: r =>
      set r
      readQuoted fuel (c :: acc)
    | [] => failure

/-- Whether a character may stand in a key without quotes. -/
def isBare (c : Char) : Bool :=
  c.isAlphanum || c == '_' || c == '-'

def readKey : Reader String := do
  if ← eat ['"'] then readQuoted ((← get).length + 1) []
  else
    let cs ← get
    let name := cs.takeWhile isBare
    if name.isEmpty then failure
    set (cs.drop name.length)
    return String.ofList name

/-! ## Words -/

/-- Whether characters are digits, and at least one. -/
def areDigits (cs : List Char) : Bool :=
  !cs.isEmpty && cs.all Char.isDigit

/-- A word without its sign, and whether the sign is a minus. -/
def unsigned (cs : List Char) : Bool × List Char :=
  match cs with
  | '-' :: r => (true, r)
  | '+' :: r => (false, r)
  | _ => (false, cs)

/-- The integer that a word writes, if it fits 64 bits. -/
def integer? (word : List Char) : Option Json :=
  let (negative, ds) := unsigned word
  let n := Json.digitsValue ds
  if !areDigits ds then none
  else if negative then (if n ≤ 0x8000000000000000 then some (.ofInt (-n)) else none)
  else if n < 0x10000000000000000 then some (.ofNat n)
  else none

/-- The exponent of a number, after its mantissa. -/
def exponent? (cs : List Char) : Option Int :=
  match cs with
  | [] => some 0
  | e :: r =>
    let (negative, ds) := unsigned r
    if (e = 'e' ∨ e = 'E') ∧ areDigits ds then
      let n : Int := Json.digitsValue ds
      some (if negative then -n else n)
    else none

/-- The number with a point that a word writes. -/
def real? (word : List Char) : Option Json :=
  let (negative, r) := unsigned word
  let whole := r.takeWhile Char.isDigit
  match r.drop whole.length with
  | '.' :: r =>
    let fraction := r.takeWhile Char.isDigit
    if whole.isEmpty && fraction.isEmpty then none
    else
      (exponent? (r.drop fraction.length)).map fun e =>
        .num (Json.nearest negative (Json.digitsValue (whole ++ fraction)) (e - fraction.length))
  | _ => none

/-- The value of a word: a number if it writes one, or else its text. -/
def ofWord (word : List Char) : Json :=
  ((real? word).or (integer? word)).getD (.str (String.ofList word))

/-- Whether a character ends a word. -/
def isSeparator (c : Char) : Bool :=
  [',', '{', '}', '[', ']'].contains c

/-! ## Values -/

/-- What is read next of a value. -/
inductive Part where
  | value
  /-- The values of a list after those read, the latest first. -/
  | items (done : List Json)
  /-- The entries of a table after those read, the latest first. -/
  | fields (done : List (String × Json))

/-- Reads with a reader, and passes over the blanks that follow. -/
def padded (r : Reader Json) : Reader Json := do
  let v ← r
  skipBlanks
  return v

/-- Reads a text in double quotes, after the first of them. -/
def readText : Reader Json := do
  return .str (← readQuoted ((← get).length + 1) [])

/-- Reads a character in single quotes or a word. -/
def readWord : Reader Json := do
  match ← get with
  | '\'' :: c :: '\'' :: r => do
    set r
    return .str (String.singleton c)
  | '\'' :: _ => failure
  | cs => do
    let word := cs.takeWhile (!isSeparator ·)
    set (cs.drop word.length)
    return ofWord (Text.trim word)

/-- Reads a part of a value; `fuel` bounds the number of parts.  A list and a table may end with
a comma. -/
def readPart : Nat → Part → Reader Json
  | 0, _ => failure
  | fuel + 1, .value => do
    skipBlanks
    if ← eat ['t', 'r', 'u', 'e'] then padded (pure (.bool true))
    else if ← eat ['f', 'a', 'l', 's', 'e'] then padded (pure (.bool false))
    else if ← eat ['{'] then padded (readPart fuel (.fields []))
    else if ← eat ['['] then padded (readPart fuel (.items []))
    else if ← eat ['"'] then padded readText
    else padded readWord
  | fuel + 1, .items done => do
    if ← eat [']'] then return .arr done.reverse
    else
      let v ← readPart fuel .value
      if ← eat [','] then readPart fuel (.items (v :: done))
      else
        expect [']']
        return .arr (v :: done).reverse
  | fuel + 1, .fields done => do
    if ← eat ['}'] then return .ofFields done.reverse
    else
      skipBlanks
      let k ← readKey
      skipBlanks
      expect ['=']
      let v ← readPart fuel .value
      if ← eat [','] then readPart fuel (.fields ((k, v) :: done))
      else
        expect ['}']
        return .ofFields ((k, v) :: done).reverse

/-- The value of a text; a text that cannot be read to its end stands for itself. -/
def valueOf (text : String) : Json :=
  let cs := text.toList
  match readPart (2 * cs.length + 3) .value cs with
  | some (v, []) => v
  | _ => .str text

/-! ## Names -/

/-- The pieces of a text between its dots. -/
def splitDots : List Char → List (List Char)
  | [] => [[]]
  | c :: cs =>
    if c = '.' then [] :: splitDots cs
    else
      match splitDots cs with
      | [] => [[c]]
      | p :: ps => (c :: p) :: ps

/-- The keys that a name with a prefix stands for, the outermost first; the case of ASCII letters
does not count. -/
def keys? (lead name : String) : Option (List String) :=
  let cs := name.toList.map Char.toLower
  let start := lead.toList.map Char.toLower
  if start.isPrefixOf cs then
    let parts := splitDots (Text.trim (cs.drop start.length))
    if parts.any List.isEmpty then none else some (parts.map String.ofList)
  else none

/-- The table in which a value stands under keys. -/
def nest (v : Json) : List String → Json
  | [] => v
  | k :: ks => .obj [(k, nest v ks)]

end BundleGraph.Variable
