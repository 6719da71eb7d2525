import BundleGraph.Script.Lexer
import BundleGraph.Script.Tree

/-!
# Reading a script token by token

A `Parser` reads from a cursor that holds one token and the text after it, under a
`Scope` that says what the surroundings allow.  There are two kinds of error.  A reader
that cannot go on fails, and a caller may go back to where it stood and try another
reading.  A construct that can be read but is not allowed is noted as a fault, which
stays with the reading; a text with a fault is refused at the end.

## Main definitions

* `Parser.attempt` — tries a reading and takes it back if it fails.
* `Parser.lookahead` — asks a question about the text ahead.
* `Parser.iterate` — a loop bounded by the length of the text.
* `Parser.separated` — a list up to a closing mark.
-/

namespace BundleGraph.Script

/-- Which extensions of the language a script is written in. -/
structure Dialect where
  /-- Type annotations and declarations. -/
  types : Bool
  /-- Markup elements as expressions. -/
  markup : Bool
  deriving DecidableEq, Repr

/-- What the surroundings of a construct allow. -/
structure Scope where
  dialect : Dialect
  /-- A bound on the number of rounds of any loop: the length of the text and two. -/
  rounds : Nat
  /-- Whether `in` is an operator. -/
  allowIn : Bool := true
  /-- Whether `yield` is an operator. -/
  yields : Bool := false
  /-- Whether `await` is an operator. -/
  awaits : Bool := true
  /-- Whether a function may be left. -/
  returns : Bool := false
  /-- Whether declarations only describe what exists elsewhere. -/
  ambient : Bool := false
  /-- Whether the expression of a decorator is read. -/
  decorating : Bool := false
  /-- Whether a conditional type may not be read. -/
  plainTypes : Bool := false

/-- The token being looked at and the text around it. -/
structure Cursor where
  token : Token
  /-- The text from the start of the token. -/
  here : List Char
  /-- The text after the token. -/
  rest : List Char
  /-- Whether a fault was noted. -/
  faulty : Bool := false

/-- A reader under a scope. -/
abbrev Parser := ReaderT Scope (StateT Cursor Option)

namespace Parser

/-- The token being looked at. -/
def token : Parser Token :=
  return (← get).token

/-- Notes a fault. -/
def fault : Parser Unit :=
  modify fun c => { c with faulty := true }

/-- Notes a fault if the condition holds. -/
def faultIf (b : Bool) : Parser Unit :=
  if b then fault else pure ()

/-- Puts a lexeme in the place of the token. -/
def install (here : List Char) (l : Lexeme) : Parser Unit :=
  modify fun c => { c with token := l.token, here, rest := l.rest, faulty := c.faulty || l.fault }

/-- Reads on to the next token. -/
def advanceName : Parser Unit := do
  let (here, l) := nextToken (← get).rest
  install here l

/-- Reads on from a token used as a keyword, which may not be written with an escape. -/
def advance : Parser Unit := do
  let t ← token
  faultIf (t.kind == .word && t.escaped && isKeyword t.text)
  advanceName

def typesOn : Parser Bool :=
  return (← read).dialect.types

def markupOn : Parser Bool :=
  return (← read).dialect.markup

/-- Whether the token is a given mark. -/
def isAt (m : Mark) : Parser Bool :=
  return (← token).isMark m

/-- Whether the token is one of the given marks. -/
def isAtAny (ms : List Mark) : Parser Bool := do
  match (← token).kind with
  | .mark m => return ms.contains m
  | _ => return false

/-- Whether the token is a given word. -/
def isAtWord (w : String) : Parser Bool :=
  return (← token).isWord w

/-- Whether a line ends before the token. -/
def onNewLine : Parser Bool :=
  return (← token).afterNewline

/-- Reads a mark if it is there. -/
def eat (m : Mark) : Parser Bool := do
  if ← isAt m then advance; return true
  else return false

def eatWord (w : String) : Parser Bool := do
  if ← isAtWord w then advance; return true
  else return false

/-- Reads a mark that has to be there. -/
def expect (m : Mark) : Parser Unit := do
  if ← eat m then pure () else failure

def expectWord (w : String) : Parser Unit := do
  if ← eatWord w then pure () else failure

/-- Runs a reader under a changed scope. -/
def within (change : Scope → Scope) (p : Parser α) : Parser α :=
  fun s => p (change s)

/-- Runs a reader where `in` is an operator. -/
def withIn (p : Parser α) : Parser α :=
  within (fun s => { s with allowIn := true }) p

/-- Tries a reading, and takes it back if it fails. -/
def attempt (p : Parser α) : Parser (Option α) :=
  fun s c =>
    match p s c with
    | some (a, c') => some (some a, c')
    | none => some (none, c)

/-- Runs a reader for its answer only; a reader that fails answers no. -/
def lookahead (p : Parser Bool) : Parser Bool :=
  fun s c =>
    match p s c with
    | some (b, _) => some (b, c)
    | none => some (false, c)

/-- The token after the current one. -/
def peek : Parser Token :=
  return (nextToken (← get).rest).2.token

/-- Repeats a step until it answers, at most `n` times. -/
def repeatUpTo (step : σ → Parser (σ ⊕ α)) : Nat → σ → Parser α
  | 0, _ => failure
  | n + 1, s => do
    match ← step s with
    | .inl s' => repeatUpTo step n s'
    | .inr a => return a

/-- Repeats a step until it answers.  A loop that reads a token a round ends within the bound. -/
def iterate (start : σ) (step : σ → Parser (σ ⊕ α)) : Parser α := do
  repeatUpTo step (← read).rounds start

/-- The items up to a closing mark, which is left, with a comma between any two; also whether
a comma follows the last one. -/
def separated (close : Mark) (item : Parser α) : Parser (List α × Bool) := do
  if ← isAt close then return ([], false)
  let first ← item
  iterate [first] fun done => do
    if ← isAt close then return .inr (done.reverse, false)
    expect .comma
    if ← isAt close then return .inr (done.reverse, true)
    return .inl ((← item) :: done)

/-- The items of a list in brackets. -/
def enclosed (opening close : Mark) (item : Parser α) : Parser (List α) := do
  expect opening
  let (items, _) ← separated close item
  expect close
  return items

/-- Whether a statement may end before the token without a semicolon. -/
def mayEndStatement : Parser Bool := do
  let t ← token
  return t.isMark .semicolon || t.isMark .closeBrace || t.kind == .done || t.afterNewline

/-- The end of a statement: a semicolon, or a place where it may be left out. -/
def endStatement : Parser Unit := do
  if ← eat .semicolon then pure ()
  else if ← mayEndStatement then pure ()
  else failure

/-- Reads the greater sign and all signs that belong to it as one token. -/
def joinGreater : Parser Unit := do
  let c ← get
  if c.token.isMark .greater then
    let (m, rest) := longGreater (c.here.drop 1)
    set { c with token := { c.token with kind := .mark m }, rest }

/-- Cuts a token that starts with the less sign down to that sign. -/
def splitLess : Parser Unit := do
  let c ← get
  if c.token.isMark .shiftLeft ∨ c.token.isMark .lessEqual ∨ c.token.isMark .shiftLeftAssign then
    set { c with token := { c.token with kind := .mark .less }, rest := c.here.drop 1 }

/-- Cuts a token that starts with the greater sign down to that sign. -/
def splitGreater : Parser Unit := do
  let c ← get
  match c.here with
  | '>' :: r => set { c with token := { c.token with kind := .mark .greater }, rest := r }
  | _ => pure ()

/-- Reads the slash at the token as the start of a pattern. -/
def joinPattern : Parser Unit := do
  let c ← get
  match readPattern (c.here.drop 1) with
  | some l => install c.here { l with token := { l.token with afterNewline := c.token.afterNewline } }
  | none => failure

/-- Reads the brace at the token as the end of a substitution in a template. -/
def joinTemplate : Parser Unit := do
  let c ← get
  if c.token.isMark .closeBrace then install c.here (readTemplate (c.here.drop 1))

/-- Takes a mark after which text between markup tags follows. -/
def expectBeforeMarkup (m : Mark) : Parser Unit := do
  if ← isAt m then
    let rest := (← get).rest
    install rest (markupChild rest)
  else failure

/-- Takes the sign before the value of an attribute. -/
def advanceToAttribute : Parser Unit := do
  let (here, l) := attributeValue (← get).rest
  install here l

/-- Extends the name at the token by hyphens and more name characters. -/
def joinMarkupName : Parser Unit := do
  modify fun c => { c with rest := if c.rest.head? = some '-' then markupNameEnd c.rest else c.rest }

/-! ## Names -/

/-- `yield` and `await` are no names where they are operators. -/
def checkName (w : String) : Parser Unit := do
  let s ← read
  faultIf ((w == "await" && s.awaits) || (w == "yield" && s.yields))

/-- Reads a name that refers to a variable. -/
def reference : Parser Node := do
  let t ← token
  if t.isName then
    checkName t.text
    advanceName
    return .name t.text
  else failure

def bindingName : Parser Node := do
  let t ← token
  if t.isName then
    checkName t.text
    advanceName
    return .node .binding [.name t.text]
  else failure

/-- Reads any word as a name. -/
def anyName : Parser String := do
  let t ← token
  if t.isAnyWord then
    advanceName
    return t.text
  else failure

def stringLiteral : Parser String := do
  let t ← token
  if t.kind == .string then
    advanceName
    return t.text
  else failure

def startOf (text : List Char) : Cursor :=
  let (here, l) := nextToken text
  { token := l.token, here, rest := l.rest, faulty := l.fault }

end Parser

/-- Where a statement stands. -/
inductive Place where
  /-- In a list of statements. -/
  | list
  /-- As the body of another statement or after a label, where no declaration may stand. -/
  | single
  deriving DecidableEq, Repr

/-- What a function is read for. -/
inductive FunctionRole where
  | declaration
  | defaultExport
  | expression
  | method
  | constructor
  deriving DecidableEq, Repr

/-- The constructs that contain each other without bound.  A rule of the grammar reads such
a part by asking for its goal. -/
inductive Goal where
  | statement (place : Place)
  | expression
  /-- An expression without a comma; `arrowType` says whether an arrow function may give the
  type it returns. -/
  | assignment (arrowType : Bool)
  /-- Operands joined by operators that bind closer than `floor`. -/
  | binary (floor : Nat)
  | unary
  | leftSide
  | construct
  | pattern
  /-- A pattern with a type and a default. -/
  | element
  /-- Parameters and body. -/
  | function (role : FunctionRole) (async generator : Bool)
  | classRest (modifiers : List String) (decorators : List Node)
  | decorator
  /-- Statements in braces. -/
  | block
  /-- The statements of a function in braces. -/
  | body
  | type
  | operandType
  | markup (asChild : Bool)
  | moduleBody
  deriving Repr

/-- How the parts of a construct are read. -/
abbrev Rules := Goal → Parser Node

end BundleGraph.Script
