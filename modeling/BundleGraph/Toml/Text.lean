import BundleGraph.Json.Reader

/-!
# Texts of a TOML document

Texts stand between quotes or between triple quotes, with escapes or without.  Readers
here work on the rest of the document.

## Main definitions

* `Reader` — a computation on the rest of a document.
* `readText` — a text of any of the four kinds.
* `readKey` — a key, which may have several parts.
-/

namespace BundleGraph.Toml

/-- A computation on the rest of a document. -/
abbrev Reader := StateT (List Char) Option

/-- The next character, which has to be there. -/
def peek : Reader Char := do
  match ← get with
  | c :: _ => return c
  | [] => failure

/-- Reads a text if it is there. -/
def eat (text : List Char) : Reader Bool := do
  let cs ← get
  if text.isPrefixOf cs then
    set (cs.drop text.length)
    return true
  else return false

/-- Reads a text that has to be there. -/
def expect (text : List Char) : Reader Unit := do
  if ← eat text then pure () else failure

/-- Goes on only if a condition holds. -/
def require (b : Bool) : Reader Unit :=
  if b then pure () else failure

/-- Passes over blanks of a line. -/
def skipBlanks : Reader Unit :=
  modify (·.dropWhile fun c => c == ' ' || c == '\t')

/-- Whether a character may stand in a comment or a text. -/
def isPlain (c : Char) : Bool :=
  c == '\t' || (0x20 ≤ c.toNat && c != '\x7f')

/-- Whether a character may stand in a key without quotes. -/
def isBare (c : Char) : Bool :=
  c.isAlphanum || c == '-' || c == '_'

/-- The text with the line ends of one or two characters written as one. -/
def unifyLines : List Char → List Char
  | '\r' :: '\n' :: cs => '\n' :: unifyLines cs
  | c :: cs => c :: unifyLines cs
  | [] => []

/-- Whether a text has a carriage return that does not end a line. -/
def hasLooseReturn : List Char → Bool
  | '\r' :: '\n' :: cs => hasLooseReturn cs
  | c :: cs => c == '\r' || hasLooseReturn cs
  | [] => false

/-! ## Escapes -/

/-- The character of a number of digits to base sixteen, and what follows. -/
def codeOf? (count : Nat) (cs : List Char) : Option (Char × List Char) :=
  let ds := cs.take count
  match ds.mapM Json.hexOf? with
  | some values =>
    let n := values.foldl (fun n d => n * 16 + d) 0
    if ds.length = count ∧ n.isValidChar then some (Char.ofNat n, cs.drop count) else none
  | none => none

/-- The character that an escape stands for, after its backslash, and what follows. -/
def escape? : List Char → Option (Char × List Char)
  | 'b' :: r => some ('\x08', r)
  | 't' :: r => some ('\t', r)
  | 'n' :: r => some ('\n', r)
  | 'f' :: r => some ('\x0c', r)
  | 'r' :: r => some ('\r', r)
  | '"' :: r => some ('"', r)
  | '\\' :: r => some ('\\', r)
  | 'u' :: r => codeOf? 4 r
  | 'U' :: r => codeOf? 8 r
  | _ => none

/-- What follows a backslash at the end of a line: the text from the next character that is no
blank.  None if anything but blanks stands after the backslash on its line. -/
def continued? (cs : List Char) : Option (List Char) :=
  let isSpace := fun (c : Char) => c == ' ' || c == '\t'
  match cs.dropWhile isSpace with
  | '\n' :: r => some (r.dropWhile fun c => isSpace c || c == '\n')
  | _ => none

/-! ## The four kinds of text -/

/-- Reads a text with escapes after its quote; the characters so far come latest first. -/
def readEscaped : Nat → List Char → Reader String
  | 0, _ => failure
  | fuel + 1, acc => do
    match ← get with
    | '"' :: r =>
      set r
      return String.ofList acc.reverse
    | '\\' :: r =>
      match escape? r with
      | some (c, r) =>
        set r
        readEscaped fuel (c :: acc)
      | none => failure
    | c :: r =>
      require (isPlain c)
      set r
      readEscaped fuel (c :: acc)
    | [] => failure

/-- Reads a text without escapes after its quote. -/
def readLiteral : Reader String := do
  let cs ← get
  let text := cs.takeWhile (· != '\'')
  require (text.all isPlain)
  set (cs.drop text.length)
  expect ['\'']
  return String.ofList text

/-- The number of quotes that a text starts with. -/
def quotes (q : Char) (cs : List Char) : Nat :=
  (cs.takeWhile (· == q)).length

/-- Reads a text of several lines after its quotes, whose closing quotes are three `q`; one or
two more before them belong to the text. -/
def readLines (q : Char) (escapes : Bool) : Nat → List Char → Reader String
  | 0, _ => failure
  | fuel + 1, acc => do
    let cs ← get
    let n := quotes q cs
    if 3 ≤ n then
      let inside := min (n - 3) 2
      set (cs.drop (inside + 3))
      return String.ofList ((acc.reverse) ++ List.replicate inside q)
    else
      match cs with
      | [] => failure
      | '\\' :: r =>
        if escapes then
          match continued? r with
          | some r =>
            set r
            readLines q escapes fuel acc
          | none =>
            match escape? r with
            | some (c, r) =>
              set r
              readLines q escapes fuel (c :: acc)
            | none => failure
        else
          set r
          readLines q escapes fuel ('\\' :: acc)
      | c :: r =>
        require (isPlain c || c == '\n')
        set r
        readLines q escapes fuel (c :: acc)

/-- Reads a text of any kind from its first quote. -/
def readText : Reader String := do
  let fuel := (← get).length + 1
  if ← eat ['"', '"', '"'] then
    let _ ← eat ['\n']
    readLines '"' true fuel []
  else if ← eat ['\'', '\'', '\''] then
    let _ ← eat ['\n']
    readLines '\'' false fuel []
  else if ← eat ['"'] then readEscaped fuel []
  else
    expect ['\'']
    readLiteral

/-! ## Keys -/

/-- Reads one part of a key. -/
def readKeyPart : Reader String := do
  let c ← peek
  if c = '"' then
    expect ['"']
    readEscaped (← get).length []
  else if c = '\'' then
    expect ['\'']
    readLiteral
  else
    let cs ← get
    let name := cs.takeWhile isBare
    require !name.isEmpty
    set (cs.drop name.length)
    return String.ofList name

/-- Reads the further parts of a key; those so far come latest first. -/
def readKeyRest : Nat → List String → Reader (List String)
  | 0, _ => failure
  | fuel + 1, parts => do
    skipBlanks
    if ← eat ['.'] then
      skipBlanks
      readKeyRest fuel ((← readKeyPart) :: parts)
    else return parts.reverse

/-- Reads a key: the parts before the last one, and the last. -/
def readKey : Reader (List String × String) := do
  skipBlanks
  let first ← readKeyPart
  let parts ← readKeyRest ((← get).length + 1) [first]
  match parts.getLast? with
  | some last => return (parts.dropLast, last)
  | none => failure

end BundleGraph.Toml
