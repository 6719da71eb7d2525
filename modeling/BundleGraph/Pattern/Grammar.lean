import BundleGraph.Pattern.ClassReader

/-!
# The grammar of patterns

A pattern is a list of alternatives, each a run of pieces that may be repeated.  Groups
nest, and a group can set flags for the rest of the group it stands in.

## Main definitions

* `readAlternatives` — the alternatives up to the end of a group or of the pattern.
* `Expr.ofText?` — the expression of a pattern, if it is one.
-/

namespace BundleGraph.Pattern

/-- An expression, and how deep its constructs nest. -/
structure Piece where
  expr : Expr
  depth : Nat

/-- What stands in a run: a piece, or a group that only sets flags. -/
inductive RunItem where
  | setting
  | piece (p : Piece)

/-! ## Single pieces -/

/-- The expression of a character under the flags. -/
def literalExpr (c : Char) (byte : Bool) : Reader Expr := do
  let f ← flags
  if f.unicode then
    return .one (if f.ignoreCase then .folded (.single c) else .single c)
  else
    -- A byte that is no character cannot be matched in text.
    require (decide (c.toNat < 0x80) || !byte)
    return .one (if f.ignoreCase && decide (c.toNat < 0x80) then
      .both (.folded (.single c)) .ascii else .single c)

/-- The expression of an escape. -/
def primitiveExpr : Primitive → Reader Expr
  | .literal c byte => literalExpr c byte
  | .charClass c => return .one c
  | .edge b => return .edge b

/-- The expression of a point. -/
def anyExpr : Reader Expr := do
  let f ← flags
  require f.unicode
  if f.dotAll then return .one .all
  else if f.anyLineEnd then return .one (.complement (.ofRanges [('\n', '\n'), ('\r', '\r')]))
  else return .one (.complement (.single '\n'))

/-- The condition that `^` stands for. -/
def startBoundary (f : Flags) : Boundary :=
  if f.multiLine then (if f.anyLineEnd then .anyLineStart else .lineStart) else .textStart

/-- The condition that `$` stands for. -/
def endBoundary (f : Flags) : Boundary :=
  if f.multiLine then (if f.anyLineEnd then .anyLineEnd else .lineEnd) else .textEnd

/-- Reads a piece that is neither a group nor a class nor a repetition. -/
def readSingle : Reader Expr := do
  let f ← flags
  let c ← peek
  skipOne
  if c = '\\' then primitiveExpr (← readEscape)
  else if c = '.' then anyExpr
  else if c = '^' then return .edge (startBoundary f)
  else if c = '$' then return .edge (endBoundary f)
  else literalExpr c false

/-! ## Repetitions -/

/-- The largest number that may stand in braces. -/
def maxCount : Nat := 0xffffffff

/-- Reads the digits of a number. -/
def readNumeral : Nat → Nat → Reader Nat
  | 0, value => return value
  | fuel + 1, value => do
    match ← rest with
    | c :: _ =>
      if c.isDigit then
        skip
        readNumeral fuel (value * 10 + (c.toNat - '0'.toNat))
      else return value
    | [] => return value

/-- Reads a number in braces with the blanks around it. -/
def readCount : Reader Nat := do
  setRest ((← rest).dropWhile Text.isBlank)
  require (← peek).isDigit
  let value ← readNumeral (← rest).length 0
  setRest ((← rest).dropWhile Text.isBlank)
  skipSpace
  require (decide (value ≤ maxCount))
  return value

/-- Passes over the mark of a repetition that prefers few. -/
def skipLazy : Reader Unit := do
  if (← rest).head? = some '?' then skipOne else pure ()

/-- Reads the bounds of a repetition from its opening brace. -/
def readBounds : Reader (Nat × Option Nat) := do
  skip
  let least ← readCount
  let most ←
    if (← peek) = ',' then do
      skip
      if (← peek) = '}' then pure none
      else do pure (some (← readCount))
    else pure (some least)
  require ((← peek) = '}')
  skip
  skipLazy
  require (decide (least ≤ most.getD least))
  return (least, most)

/-- The run with its last item repeated; there has to be one to repeat. -/
def repeatLast (least : Nat) (most : Option Nat) : List RunItem → Reader (List RunItem)
  | .piece p :: r => return .piece ⟨.repeated p.expr least most, p.depth + 1⟩ :: r
  | _ => failure

/-! ## Groups -/

/-- Whether a character may stand in the name of a group. -/
def isNameChar (first : Bool) (c : Char) : Bool :=
  c == '_' || Unicode.alphabetic.contains c ||
    (!first && (c == '.' || c == '[' || c == ']' || Unicode.number.contains c))

/-- Reads the name of a group, which has to be new. -/
def readGroupName : Reader Unit := do
  let cs ← rest
  let name := cs.takeWhile (· != '>')
  require (!name.isEmpty && (name.take 1).all (isNameChar true) &&
    (name.drop 1).all (isNameChar false))
  setRest (cs.drop name.length)
  require (← eat ['>'])
  let text := String.ofList name
  require (!(← get).names.contains text)
  modify fun s => { s with names := text :: s.names }

def setFlag (f : Flags) (letter : Char) (on : Bool) : Option Flags :=
  match letter with
  | 'i' => some { f with ignoreCase := on }
  | 'm' => some { f with multiLine := on }
  | 's' => some { f with dotAll := on }
  | 'R' => some { f with anyLineEnd := on }
  | 'u' => some { f with unicode := on }
  | 'x' => some { f with verbose := on }
  | 'U' => some f
  | _ => none

/-- Reads flags up to a colon or a closing parenthesis; `letters` are those read. -/
def readFlags : Nat → Flags → List Char → Reader (Flags × List Char)
  | 0, _, _ => failure
  | fuel + 1, f, letters => do
    let c ← peek
    if c = ':' ∨ c = ')' then
      require (letters.head? != some '-')
      return (f, letters)
    else
      skipOne
      require (!letters.contains c)
      if c = '-' then readFlags fuel f (c :: letters)
      else
        match setFlag f c (!letters.contains '-') with
        | some f => readFlags fuel f (c :: letters)
        | none => failure

/-- Whether a group starts here that looks at what surrounds it, which is not possible. -/
def isLookAround (cs : List Char) : Bool :=
  [['?', '='], ['?', '!'], ['?', '<', '='], ['?', '<', '!']].any (·.isPrefixOf cs)

/-- Reads the start of a group; the answer is whether the group only sets flags. -/
def readGroupStart : Reader Bool := do
  skip
  require (!isLookAround (← rest))
  if ← eat ['?', 'P', '<'] then
    readGroupName
    return false
  else if ← eat ['?', '<'] then
    readGroupName
    return false
  else if ← eat ['?'] then
    let (f, letters) ← readFlags ((← rest).length + 1) (← flags) []
    let setting := (← peek) = ')'
    skipOne
    require (!(setting && letters.isEmpty))
    setFlags f
    return setting
  else return false

/-! ## Runs and alternatives -/

/-- The piece of a run whose items are read, the latest first. -/
def Piece.ofRun (items : List RunItem) : Piece :=
  let pieces := items.reverse.filterMap fun i =>
    match i with
    | .piece p => some p
    | .setting => none
  let deepest := (pieces.map Piece.depth).foldl max 0
  ⟨.seqOf (pieces.map Piece.expr), if 1 < items.length then deepest + 1 else deepest⟩

/-- The piece of alternatives, the latest first. -/
def Piece.ofAlternatives (ps : List Piece) : Piece :=
  let deepest := (ps.map Piece.depth).foldl max 0
  ⟨.altOf (ps.reverse.map Piece.expr), if 1 < ps.length then deepest + 1 else deepest⟩

/-- What is read next of a pattern. -/
inductive Part where
  /-- The alternatives after those read. -/
  | alternatives (done : List Piece)
  /-- The items of a run after those read. -/
  | run (items : List RunItem)

/-- Reads a part of a pattern; `fuel` bounds the number of parts. -/
def readPart : Nat → Part → Reader Piece
  | 0, _ => failure
  | fuel + 1, .alternatives done => do
    let p ← readPart fuel (.run [])
    if (← rest).head? = some '|' then
      skipOne
      readPart fuel (.alternatives (p :: done))
    else return .ofAlternatives (p :: done)
  | fuel + 1, .run items => do
    skipSpace
    match ← rest with
    | [] => return .ofRun items
    | c :: _ =>
      if c = ')' ∨ c = '|' then return .ofRun items
      else if c = '(' then
        let outer ← flags
        if ← readGroupStart then readPart fuel (.run (.setting :: items))
        else
          let p ← readPart fuel (.alternatives [])
          require (← eat [')'])
          setFlags outer
          readPart fuel (.run (.piece ⟨p.expr, p.depth + 1⟩ :: items))
      else if c = '[' then
        let k ← readBrackets
        readPart fuel (.run (.piece ⟨.one k.members, k.depth⟩ :: items))
      else if c = '?' ∨ c = '*' ∨ c = '+' then
        skipOne
        skipLazy
        let most := if c = '?' then some 1 else none
        readPart fuel (.run (← repeatLast (if c = '+' then 1 else 0) most items))
      else if c = '{' then
        let (least, most) ← readBounds
        readPart fuel (.run (← repeatLast least most items))
      else
        let e ← readSingle
        readPart fuel (.run (.piece ⟨e, 0⟩ :: items))

/-- How deep constructs may nest in a pattern. -/
def maxDepth : Nat := 250

/-- How many bytes the matcher of a pattern may need. -/
def maxCost : Nat := 10 * 0x100000

/-- The expression of a pattern; none if the text is no pattern, or one too large. -/
def Expr.ofText? (text : String) : Option Expr :=
  let cs := text.toList
  match readPart (3 * cs.length + 3) (.alternatives []) { rest := cs } with
  | some (p, s) =>
    if s.rest.isEmpty && decide (p.depth ≤ maxDepth) && decide (p.expr.cost ≤ maxCost) then
      some p.expr
    else none
  | none => none

end BundleGraph.Pattern
