import BundleGraph.Toml.Number
import BundleGraph.Toml.Tree

/-!
# Reading a TOML document

A document is a list of lines: headers, assignments, comments and empty ones.

## Main definitions

* `readValue` — a value.
* `Toml.parse?` — the value of a document, if it is one.
-/

namespace BundleGraph.Toml

/-- Passes over a comment if one starts here. -/
def skipComment : Reader Unit := do
  if ← eat ['#'] then
    let cs ← get
    let text := cs.takeWhile (· != '\n')
    require (text.all isPlain)
    set (cs.drop text.length)
  else pure ()

/-- Passes over blanks, line ends and comments. -/
def skipSpace : Nat → Reader Unit
  | 0 => pure ()
  | fuel + 1 => do
    modify (·.dropWhile fun c => c == ' ' || c == '\t' || c == '\n')
    if (← get).head? = some '#' then
      skipComment
      skipSpace fuel
    else pure ()

/-- Passes over blanks, line ends and comments. -/
def skipAll : Reader Unit := do
  skipSpace ((← get).length + 1)

/-- Whether a character may stand in a number or a word. -/
def isWordChar (c : Char) : Bool :=
  c.isAlphanum || c == '_' || c == '+' || c == '-' || c == '.'

/-- Reads a value that is neither a text nor a list nor a table. -/
def readPlain : Reader Json := do
  let cs ← get
  match date? cs with
  | some (text, r) =>
    set r
    return dateValue text
  | none =>
    let word := cs.takeWhile isWordChar
    set (cs.drop word.length)
    if word = ['t', 'r', 'u', 'e'] then return .bool true
    else if word = ['f', 'a', 'l', 's', 'e'] then return .bool false
    else
      match (integer? word).or (real? word) with
      | some v => return v
      | none => failure

/-- What is read next of a value. -/
inductive Part where
  | value
  /-- The values of a list after those read, the latest first. -/
  | items (done : List Json)
  /-- The entries of a table in braces after those read. -/
  | fields (done : Entries)

/-- Reads a part of a value; `fuel` bounds the number of parts. -/
def readPart : Nat → Part → Reader Json
  | 0, _ => failure
  | fuel + 1, .value => do
    let c ← peek
    if c = '"' ∨ c = '\'' then return .str (← readText)
    else if ← eat ['['] then
      skipAll
      if ← eat [']'] then return .arr [] else readPart fuel (.items [])
    else if ← eat ['{'] then
      skipBlanks
      if ← eat ['}'] then return .obj [] else readPart fuel (.fields [])
    else readPlain
  | fuel + 1, .items done => do
    let v ← readPart fuel .value
    skipAll
    if ← eat [','] then
      skipAll
      if ← eat [']'] then return .arr (v :: done).reverse else readPart fuel (.items (v :: done))
    else
      expect [']']
      return .arr (v :: done).reverse
  | fuel + 1, .fields done => do
    let (path, k) ← readKey
    expect ['=']
    skipBlanks
    let v ← readPart fuel .value
    skipBlanks
    match assign path k v done with
    | none => failure
    | some done =>
      if ← eat [','] then readPart fuel (.fields done)
      else
        expect ['}']
        return .ofFields (entriesJson done)

def readValue : Reader Json := do
  readPart (2 * (← get).length + 2) .value

/-- A document being read: its entries, and the path of the table opened last. -/
structure Document where
  entries : Entries := []
  current : List String := []

/-- Reads a line that is not empty. -/
def readStatement (d : Document) : Reader Document := do
  if ← eat ['[', '['] then
    let (path, k) ← readKey
    expect [']', ']']
    match openElement path k d.entries with
    | some es => return ⟨es, path ++ [k]⟩
    | none => failure
  else if ← eat ['['] then
    let (path, k) ← readKey
    expect [']']
    match openTable path k d.entries with
    | some es => return ⟨es, path ++ [k]⟩
    | none => failure
  else
    let (path, k) ← readKey
    expect ['=']
    skipBlanks
    let v ← readValue
    match assignBelow d.current path k v d.entries with
    | some es => return { d with entries := es }
    | none => failure

def readDocument : Nat → Document → Reader Document
  | 0, _ => failure
  | fuel + 1, d => do
    skipBlanks
    match ← get with
    | [] => return d
    | '\n' :: r =>
      set r
      readDocument fuel d
    | '#' :: _ =>
      skipComment
      readDocument fuel d
    | _ =>
      let d ← readStatement d
      skipBlanks
      skipComment
      match ← get with
      | [] => return d
      | '\n' :: r =>
        set r
        readDocument fuel d
      | _ => failure

/-- The text without the mark of its byte order. -/
def dropOrderMark : List Char → List Char
  | '\ufeff' :: cs => cs
  | cs => cs

/-- The value of a document, if it is one. -/
def parse? (text : String) : Option Json :=
  let cs := dropOrderMark text.toList
  if hasLooseReturn cs then none
  else
    let cs := unifyLines cs
    match readDocument (cs.length + 2) {} cs with
    | some (d, _) => some (.ofFields (entriesJson d.entries))
    | none => none

end BundleGraph.Toml
