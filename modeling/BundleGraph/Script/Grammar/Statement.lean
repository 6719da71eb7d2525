import BundleGraph.Script.Grammar.Markup
import BundleGraph.Script.Grammar.Module

/-!
# Statements

Every statement of a script, in lists and as the body of another statement.
-/

namespace BundleGraph.Script

open BundleGraph.Script.Parser

/-- Statements up to a closing brace or the end of the text. -/
def statements (r : Rules) : Parser (List Node) :=
  iterate [] fun done => do
    if (← isAt .closeBrace) || (← token).kind == .done then return .inr done.reverse
    else return .inl ((← r (.statement .list)) :: done)

def blockStatement (r : Rules) : Parser Node := do
  expect .openBrace
  let ss ← withIn (statements r)
  expect .closeBrace
  return .node .block ss

def functionBody (r : Rules) : Parser Node :=
  within (fun s => { s with returns := true, allowIn := true, decorating := false })
    (blockStatement r)

/-- An expression in parentheses that a statement asks for. -/
def condition (r : Rules) : Parser Node := do
  expect .openParen
  let e ← withIn (r .expression)
  expect .closeParen
  return e

/-- `if` -/
def ifStatement (r : Rules) : Parser Node := do
  expectWord "if"
  let c ← condition r
  let a ← r (.statement .single)
  let b ← if ← eatWord "else" then pure [← r (.statement .single)] else pure []
  return .node .statement (c :: a :: b)

/-- `do … while`; its semicolon may always be left out. -/
def doStatement (r : Rules) : Parser Node := do
  expectWord "do"
  let body ← r (.statement .single)
  expectWord "while"
  let c ← condition r
  discard (eat .semicolon)
  return .node .statement [body, c]

/-- `while` and `with` -/
def whileStatement (r : Rules) : Parser Node := do
  advance
  let c ← condition r
  return .node .statement [c, ← r (.statement .single)]

/-- `break` and `continue` -/
def jumpStatement : Parser Node := do
  advance
  if !(← mayEndStatement) then discard reference
  endStatement
  return .node .statement []

/-- `return` -/
def returnStatement (r : Rules) : Parser Node := do
  faultIf (!(← read).returns)
  advance
  let e ← if ← mayEndStatement then pure [] else pure [← withIn (r .expression)]
  endStatement
  return .node .statement e

/-- `throw`; its value has to start on the same line. -/
def throwStatement (r : Rules) : Parser Node := do
  advance
  faultIf (← onNewLine)
  let e ← withIn (r .expression)
  endStatement
  return .node .statement [e]

/-- `try`, with what catches or follows; one of the two has to be there. -/
def tryStatement (r : Rules) : Parser Node := do
  advance
  let body ← r .block
  let handler ←
    if ← eatWord "catch" then
      let p ←
        if ← eat .openParen then
          let p ← r .pattern
          let t ← typeAnnotation r
          expect .closeParen
          pure (p :: t)
        else pure []
      pure (p ++ [← r .block])
    else pure []
  let final ← if ← eatWord "finally" then pure [← r .block] else pure []
  faultIf (handler.isEmpty && final.isEmpty)
  return .node .statement (body :: handler ++ final)

def switchCase (r : Rules) : Parser (List Node) := do
  let test ←
    if ← eatWord "default" then pure []
    else
      expectWord "case"
      pure [← withIn (r .expression)]
  expect .colon
  let body ← iterate [] fun done => do
    if (← isAt .closeBrace) || (← token).isOneOf ["case", "default"] then return .inr done.reverse
    else return .inl ((← r (.statement .list)) :: done)
  return test ++ body

/-- `switch` -/
def switchStatement (r : Rules) : Parser Node := do
  advance
  let c ← condition r
  expect .openBrace
  let cases ← iterate [] fun done => do
    if ← isAt .closeBrace then return .inr done
    else return .inl (done ++ (← switchCase r))
  expect .closeBrace
  return .node .statement (c :: cases)

/-! ## Loops -/

/-- A loop with a start, a test and a step, after its start. -/
def countedLoop (r : Rules) (awaited : Bool) (start : List Node) : Parser Node := do
  expect .semicolon
  faultIf awaited
  let test ← if ← isAt .semicolon then pure [] else pure [← withIn (r .expression)]
  expect .semicolon
  let step ← if ← isAt .closeParen then pure [] else pure [← withIn (r .expression)]
  expect .closeParen
  return .node .statement (start ++ test ++ step ++ [← r (.statement .single)])

/-- A loop over keys, after what each key goes to. -/
def keyLoop (r : Rules) (awaited : Bool) (target : Node) : Parser Node := do
  expectWord "in"
  faultIf awaited
  let e ← withIn (r .expression)
  expect .closeParen
  return .node .statement [target, e, ← r (.statement .single)]

/-- A loop over values, after what each value goes to. -/
def valueLoop (r : Rules) (target : Node) : Parser Node := do
  expectWord "of"
  let e ← withIn (r (.assignment true))
  expect .closeParen
  return .node .statement [target, e, ← r (.statement .single)]

/-- A loop whose start declares variables. -/
def declaringLoop (r : Rules) (awaited : Bool) (kind : VariableKind) : Parser Node := do
  let ds ← within (fun s => { s with allowIn := false }) (declarators r kind true)
  let target : Node := .node .statement ds
  if ← isAtWord "in" then
    faultIf (kind == .using)
    keyLoop r awaited target
  else if ← isAtWord "of" then valueLoop r target
  else
    for d in ds do
      checkValue kind (d.parts.headD .leaf) (loopValue d)
    countedLoop r awaited [target]
where
  /-- Whether a declared variable has a value: its last part is no type. -/
  loopValue (d : Node) : Bool :=
    match d.parts with
    | _ :: ps => ps.any fun p => !p.is .typePart
    | [] => false

/-- Whether `using` declares variables at the token. -/
def atUsing : Parser Bool := do
  if ← isAtWord "using" then
    let next ← peek
    return next.isName && !next.afterNewline
  else return false

/-- Whether `await using` declares variables at the token. -/
def atAwaitUsing : Parser Bool := do
  if ← isAtWord "await" then
    lookahead do
      advanceName
      if ← onNewLine then return false
      atUsing
  else return false

/-- Whether the word `let` at the head of a loop declares what follows it. -/
def letDeclaresInLoop : Parser Bool := do
  let next ← peek
  return next.isName || next.isMark .openBracket || next.isMark .openBrace

/-- Whether a token after the word `let` makes that word a variable. -/
def usesLet (next : Token) : Bool :=
  match next.kind with
  | .mark m =>
    [Mark.dot, .openParen, .semicolon, .assign].contains m || operatorAssignMarks.contains m ||
      (precedence? next).any (3 < ·)
  | _ => next.isOneOf ["in", "instanceof"]

/-- Whether a statement that starts with the word `let` declares what follows it. -/
def letDeclares (place : Place) : Parser Bool := do
  let next ← peek
  return if place == .single then next.isMark .openBracket else !usesLet next

/-- The start of a loop and the rest of it. -/
def loopAfterParen (r : Rules) (awaited : Bool) : Parser Node := do
  let t ← token
  if t.isMark .semicolon then countedLoop r awaited []
  else if t.isWord "var" then advance; declaringLoop r awaited .var
  else if t.isWord "const" then advance; declaringLoop r awaited .const
  else if t.isWord "let" && (← letDeclaresInLoop) then advance; declaringLoop r awaited .let
  else if (← atUsing) && !((← peek).isWord "of") then advance; declaringLoop r awaited .using
  else if ← atAwaitUsing then advance; advance; declaringLoop r awaited .using
  else
    let e ← within (fun s => { s with allowIn := false }) (r .expression)
    if ← isAtWord "in" then
      match e.toTarget with
      | some target => keyLoop r awaited target
      | none => failure
    else if ← isAtWord "of" then
      match e.toTarget with
      | some target =>
        faultIf (t.isWord "let")
        match e with
        | .name n => faultIf (n == "async" && !awaited)
        | _ => pure ()
        valueLoop r target
      | none => failure
    else countedLoop r awaited [e]

/-- `for` -/
def forStatement (r : Rules) : Parser Node := do
  advance
  let awaited ←
    if ← isAtWord "await" then
      faultIf (!(← read).awaits)
      advance
      pure true
    else pure false
  expect .openParen
  loopAfterParen r awaited

/-! ## All statements -/

/-- An expression, or a label with its statement. -/
def expressionOrLabel (r : Rules) : Parser Node := do
  let e ← withIn (r .expression)
  if e.isName && (← isAt .colon) then
    advance
    return .node .statement [← r (.statement .single)]
  else
    endStatement
    return .node .statement [e]

/-- A class, an export or another declaration after decorators. -/
def decoratedStatement (r : Rules) (place : Place) : Parser Node := do
  let ds ← decorators r
  if ← eatWord "export" then exportDeclaration r ds
  else
    let ms ← modifiers false false
    if ← isAtWord "class" then
      faultIf (place == .single)
      faultIf (!(← typesOn) && !ms.isEmpty)
      r (.classRest ms ds)
    else failure

def wordStatement (r : Rules) (place : Place) (w : String) : Parser Node := do
  match w with
  | "if" => ifStatement r
  | "do" => doStatement r
  | "while" => whileStatement r
  | "with" => whileStatement r
  | "for" => forStatement r
  | "break" => jumpStatement
  | "continue" => jumpStatement
  | "switch" => switchStatement r
  | "throw" => throwStatement r
  | "try" => tryStatement r
  | "return" => returnStatement r
  | "debugger" =>
    advance
    endStatement
    return .node .statement []
  | "class" =>
    faultIf (place == .single)
    r (.classRest [] [])
  | "export" => advance; exportDeclaration r []
  | "var" => advance; variableStatement r .var place
  | "function" => functionDeclaration r .declaration false place
  | "const" =>
    advance
    if (← typesOn) && (← isAtWord "enum") then enumDeclaration r
    else variableStatement r .const place
  | "let" =>
    if !(← token).escaped && (← letDeclares place) then
      advance
      variableStatement r .let place
    else expressionOrLabel r
  | "async" =>
    if ← atAsyncFunction then
      advance
      functionDeclaration r .declaration true place
    else expressionOrLabel r
  | "import" =>
    let next ← peek
    if next.isMark .dot || next.isMark .openParen then expressionOrLabel r
    else
      advance
      importDeclaration
  | _ =>
    if ← atUsing then
      advance
      variableStatement r .using place
    else if ← atAwaitUsing then
      advance
      advance
      variableStatement r .using place
    else if ["interface", "type", "module", "namespace", "declare", "enum", "private", "protected",
        "public", "abstract", "accessor", "static", "readonly", "global"].contains w &&
        (← atTypeDeclaration) then
      declaration r []
    else expressionOrLabel r

def statement (r : Rules) (place : Place) : Parser Node := do
  let t ← token
  match t.kind with
  | .mark .openBrace => r .block
  | .mark .semicolon =>
    advance
    return .node .statement []
  | .mark .at => decoratedStatement r place
  | .word => wordStatement r place t.text
  | _ => expressionOrLabel r

end BundleGraph.Script
