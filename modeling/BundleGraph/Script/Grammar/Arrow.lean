import BundleGraph.Script.Grammar.Expression

/-!
# Arrow functions

After an opening parenthesis a few tokens often settle whether parameters or an
expression follow.  Where they do not, the parameters and the arrow are tried, and taken
back if they cannot be read.
-/

namespace BundleGraph.Script

open BundleGraph.Script.Parser

/-- What the next tokens say about an arrow function. -/
inductive Likelihood where
  | no | maybe | yes
  deriving DecidableEq

/-- What the tokens after an opening parenthesis say. -/
def likelihoodAfterParen : Parser Likelihood := do
  let second ← token
  match second.kind with
  | .mark .closeParen =>
    advanceName
    let third ← token
    if third.isMark .colon then return if ← typesOn then .maybe else .no
    else if third.isMark .arrow || third.isMark .openBrace then return .yes
    else return .no
  | .mark .openBracket => return .maybe
  | .mark .openBrace => return .maybe
  | .mark .ellipsis =>
    advanceName
    let third ← token
    if third.isLiteral then return .no
    else if third.isName then return .yes
    else return .maybe
  | _ =>
    advanceName
    let third ← token
    if second.isModifier && second.text != "async" && third.isName then
      return if third.text == "as" then .no else .yes
    if !second.isName && !second.isWord "this" then return .no
    match third.kind with
    | .mark .colon => return .yes
    | .mark .question =>
      advanceName
      let fourth ← token
      return if fourth.isMark .colon || fourth.isMark .comma || fourth.isMark .assign ||
          fourth.isMark .closeParen then .yes else .no
    | .mark .comma => return .maybe
    | .mark .assign => return .maybe
    | .mark .closeParen => return .maybe
    | _ => return .no

/-- What the tokens after a less sign say: with markup on, only a constraint, a comma or a
default tells type parameters from an element. -/
def likelihoodAfterLess : Parser Likelihood := do
  let second ← token
  if !second.isName && !second.isWord "const" then return .no
  if ← markupOn then
    if second.isWord "const" then advanceName
    advanceName
    let third ← token
    if third.isWord "extends" then
      advanceName
      let fourth ← token
      return if fourth.isMark .assign || fourth.isMark .greater || fourth.isMark .slash then .no
        else .yes
    else return if third.isMark .comma || third.isMark .assign then .yes else .no
  else return .maybe

/-- What the next tokens say about an arrow function with parameters in parentheses. -/
def arrowLikelihood : Parser Likelihood := do
  let t ← token
  if t.isMark .openParen then
    advanceName
    likelihoodAfterParen
  else if t.isMark .less then
    advanceName
    likelihoodAfterLess
  else if t.isWord "async" then
    advanceName
    let next ← token
    if next.afterNewline then return .no
    else if next.isMark .openParen then
      advanceName
      likelihoodAfterParen
    else if next.isMark .less then
      advanceName
      likelihoodAfterLess
    else return .no
  else return .no

/-- Answers without moving. -/
def arrowLikelihoodAhead : Parser Likelihood :=
  fun s c =>
    match arrowLikelihood s c with
    | some (l, _) => some (l, c)
    | none => some (.no, c)

/-- The parts of an arrow function before its body. -/
structure ArrowHead where
  async : Bool
  parts : List Node
  /-- Whether the type it returns is given. -/
  typed : Bool

/-- Reads the parameters and the arrow. -/
def arrowHead (r : Rules) (typeParameters returnType : Parser (List Node)) : Parser ArrowHead := do
  let async ← eatWord "async"
  within (fun s => { s with awaits := s.awaits || async }) do
    let types ← typesOn
    let ts ← if types then typeParameters else pure []
    let ps ← parameters r .expression
    faultIf ps.hasReceiver
    let typed := types && (← isAt .colon)
    let ret ← if typed then returnType else pure []
    faultIf (← onNewLine)
    expect .arrow
    return { async, parts := [.node .typePart ts, ps, .node .typePart ret], typed }

/-- The body of an arrow function: statements in braces, or one expression. -/
def arrowBody (r : Rules) (async arrowType : Bool) : Parser Node :=
  within (fun s => { s with awaits := async, yields := false }) do
    if ← isAt .openBrace then r .body else r (.assignment arrowType)

/-- Reads an arrow function that is certain. -/
def certainArrow (r : Rules) (typeParameters returnType : Parser (List Node)) : Parser Node := do
  let head ← arrowHead r typeParameters returnType
  return .node .arrow (head.parts ++ [← arrowBody r head.async true])

/-- Tries an arrow function.  Where an arrow function may not give the type it returns, one
that seems to do so counts only before a colon. -/
def possibleArrow (r : Rules) (typeParameters returnType : Parser (List Node)) (arrowType : Bool) :
    Parser (Option Node) := do
  let before ← get
  match ← attempt (arrowHead r typeParameters returnType) with
  | none => return none
  | some head =>
    let body ← arrowBody r head.async arrowType
    if !arrowType && head.typed && !(← isAt .colon) then
      set before
      return none
    return some (.node .arrow (head.parts ++ [body]))

/-- An arrow function with its parameters in parentheses, if there is one. -/
def parenthesizedArrow? (r : Rules) (typeParameters returnType : Parser (List Node))
    (arrowType : Bool) : Parser (Option Node) := do
  match ← arrowLikelihoodAhead with
  | .no => return none
  | .yes => return some (← certainArrow r typeParameters returnType)
  | .maybe => possibleArrow r typeParameters returnType arrowType

/-- Whether an arrow function with one bare parameter follows the word `async`. -/
def atAsyncArrow : Parser Bool := do
  if ← isAtWord "async" then
    lookahead do
      advanceName
      let t ← token
      if t.afterNewline || !t.isName then return false
      advanceName
      isAt .arrow
  else return false

/-- An arrow function from its arrow on, with one bare parameter. -/
def bareArrow (r : Rules) (async arrowType : Bool) (p : Node) : Parser Node := do
  faultIf (← onNewLine)
  expect .arrow
  return .node .arrow [p, ← arrowBody r async arrowType]

/-- An expression without a comma. -/
def assignment (r : Rules) (typeParameters returnType : Parser (List Node)) (arrowType : Bool) :
    Parser Node := do
  if ← atYield then return ← yieldExpression r
  if let some e ← parenthesizedArrow? r typeParameters returnType arrowType then return e
  if ← atAsyncArrow then
    advance
    let p ← reference
    return ← bareArrow r true arrowType p
  let e ← r (.binary 0)
  if e.isName && (← isAt .arrow) then bareArrow r false arrowType e
  else assignmentRest r arrowType e

end BundleGraph.Script
