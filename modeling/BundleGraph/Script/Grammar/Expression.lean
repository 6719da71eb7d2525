import BundleGraph.Script.Grammar.Object
import BundleGraph.Script.Grammar.Target

/-!
# Expressions

From the operands up: literals and brackets, accesses and calls, unary operators, binary
operators by how close they bind, conditions and assignments.  Arrow functions are told
from parenthesised expressions in `Grammar.Arrow`.
-/

namespace BundleGraph.Script

open BundleGraph.Script.Parser

/-! ## Type arguments among expressions -/

def startsExpression : Parser Bool := do
  let t ← token
  match t.kind with
  | .word => return !isReserved t.text || t.isOneOf ["class", "delete", "false", "function", "import",
      "new", "null", "super", "this", "true", "typeof", "void"]
  | .mark m => return [Mark.openParen, .openBracket, .openBrace, .slash, .slashAssign, .plus, .minus,
      .tilde, .bang, .increment, .decrement, .less, .at].contains m
  | .done => return false
  | .unknown => return false
  | _ => return true

/-- How close a binary operator binds; higher is closer. -/
def precedence? (t : Token) : Option Nat :=
  match t.kind with
  | .mark .orElse => some 1
  | .mark .eitherOr => some 2
  | .mark .bothAnd => some 3
  | .mark .pipe => some 4
  | .mark .caret => some 5
  | .mark .ampersand => some 6
  | .mark .equal => some 7
  | .mark .notEqual => some 7
  | .mark .same => some 7
  | .mark .notSame => some 7
  | .mark .less => some 8
  | .mark .greater => some 8
  | .mark .lessEqual => some 8
  | .mark .greaterEqual => some 8
  | .mark .shiftLeft => some 9
  | .mark .shiftRight => some 9
  | .mark .shiftRightFill => some 9
  | .mark .plus => some 10
  | .mark .minus => some 10
  | .mark .star => some 11
  | .mark .slash => some 11
  | .mark .percent => some 11
  | .mark .power => some 12
  | .word => if ["in", "instanceof", "as", "satisfies"].contains t.text then some 8 else none
  | _ => none

/-- Whether what was read as type arguments may be that, judged by the next token. -/
def mayFollowTypeArguments : Parser Bool := do
  let t ← token
  match t.kind with
  | .mark .openParen => return true
  | .template _ => return true
  | .mark .less => return false
  | .mark .greater => return false
  | .mark .plus => return false
  | .mark .minus => return false
  | _ => return t.afterNewline || ((precedence? t).isSome && !(t.isWord "in" && !(← read).allowIn)) ||
      !(← startsExpression)

/-- Type arguments after a value; they fail where a comparison is the better reading. -/
def valueTypeArguments (r : Rules) : Parser (List Node) := do
  unless ← typesOn do failure
  splitLess
  expect .less
  let (ts, _) ← separated .greater (r .type)
  let c ← get
  if c.token.isMark .greater ∧ c.rest.head? = some '=' then failure
  splitGreater
  expect .greater
  if ts.isEmpty then fault
  if ← mayFollowTypeArguments then return ts else failure

/-! ## Operands -/

/-- The rest of a template from one of its stretches on: the substituted expressions. -/
def templateParts (r : Rules) (isTagged : Bool) : Parser (List Node) :=
  iterate [] fun done => do
    let t ← token
    match t.kind with
    | .template last =>
      faultIf (t.escaped && !isTagged)
      if last then
        advanceName
        return .inr done.reverse
      else
        advanceName
        let e ← withIn (r .expression)
        joinTemplate
        return .inl (e :: done)
    | _ => failure

def template (r : Rules) (isTagged : Bool) : Parser Node :=
  return .node .template (← templateParts r isTagged)

def parenthesized (r : Rules) : Parser Node := do
  expect .openParen
  let (items, comma) ← within (fun s => { s with allowIn := true, decorating := false })
    (separated .closeParen (r (.assignment true)))
  if comma || items.isEmpty then failure
  expect .closeParen
  match items with
  | [e] => return .node .group [e]
  | es => return .node .group [.node .sequence es]

def arrayLiteral (r : Rules) : Parser Node := do
  expect .openBracket
  let item := do
    if ← isAtAny [.comma, .closeBracket] then return .node .hole []
    else if ← isAt .ellipsis then spread r
    else r (.assignment true)
  let (items, comma) ← withIn (separated .closeBracket item)
  expect .closeBracket
  return .node .array (if comma then items ++ [.node .finalComma []] else items)

/-- Whether a function follows the word `async` on its line. -/
def atAsyncFunction : Parser Bool := do
  let next ← peek
  return (← isAtWord "async") && next.isWord "function" && !next.afterNewline

/-- A function as an expression, from the word `function` on. -/
def functionExpression (r : Rules) (async : Bool) : Parser Node := do
  expectWord "function"
  let generator ← eat .star
  let name ←
    if (← token).isName then
      pure [← within (fun s => { s with awaits := async, yields := generator }) bindingName]
    else if (← token).isAnyWord then failure
    else pure []
  return .node .function (name ++ [← r (.function .expression async generator)])

/-- An operand that is not built from others. -/
def primary (r : Rules) : Parser Node := do
  let t ← token
  match t.kind with
  | .word =>
    match t.text with
    | "this" => advance; return .leaf
    | "null" => advance; return .leaf
    | "true" => advance; return .leaf
    | "false" => advance; return .leaf
    | "function" => functionExpression r false
    | "class" => r (.classRest [] [])
    | "new" => r .construct
    | "async" =>
      if ← atAsyncFunction then
        advance
        functionExpression r true
      else reference
    | _ => reference
  | .number => advanceName; return .leaf
  | .bigNumber => advanceName; return .leaf
  | .string => advanceName; return .string t.text
  | .template _ => template r false
  | .mark .openParen => parenthesized r
  | .mark .openBracket => arrayLiteral r
  | .mark .openBrace => objectLiteral r
  | .mark .slash => joinPattern; advanceName; return .leaf
  | .mark .slashAssign => joinPattern; advanceName; return .leaf
  | .mark .at =>
    let ds ← decorators r
    if ← isAtWord "class" then r (.classRest [] ds) else failure
  | _ => failure

/-! ## Accesses and calls -/

/-- A value with the accesses read so far, and whether one of them is optional. -/
structure Chain where
  value : Node
  optional : Bool := false

/-- An index after its opening bracket. -/
def indexed (r : Rules) (value : Node) : Parser Node := do
  expect .openBracket
  let i ← withIn (r .expression)
  expect .closeBracket
  return .node .member [value, i]

/-- A name after a dot. -/
def dotted (value : Node) : Parser Node := do
  let t ← token
  if t.kind == .privateName || t.isAnyWord then
    advanceName
    return .node .member [value]
  else failure

/-- A template after a value; it may not stand in an optional chain. -/
def taggedTemplate (r : Rules) (c : Chain) : Parser Chain := do
  faultIf c.optional
  let tag := match c.value with
    | .node .instantiation ps => ps
    | v => [v]
  return { c with value := .node .tagged (tag ++ [← template r true]) }

/-- One access after a value, or none. -/
def access? (r : Rules) (allowOptional : Bool) (c : Chain) : Parser (Option Chain) := do
  let t ← token
  let decorating := (← read).decorating
  match t.kind with
  | .mark .openBracket =>
    if decorating then return none
    return some { c with value := ← indexed r c.value }
  | .mark .dot =>
    advance
    return some { c with value := ← dotted c.value }
  | .mark .optional =>
    let next ← peek
    if !allowOptional then return none
    else if next.isMark .openBracket && !decorating then
      advance
      return some { value := ← indexed r c.value, optional := true }
    else if next.kind == .privateName || next.isAnyWord then
      advance
      return some { value := ← dotted c.value, optional := true }
    else return none
  | .mark .bang =>
    if (← typesOn) && !t.afterNewline then
      advance
      return some { c with value := .node .typed [c.value] }
    else return none
  | .template _ => return some (← taggedTemplate r c)
  | .mark .less => typeArguments
  | .mark .shiftLeft => typeArguments
  | _ => return none
where
  /-- Type arguments, if the text reads as such. -/
  typeArguments : Parser (Option Chain) := do
    match ← attempt (valueTypeArguments r) with
    | some ts => return some { c with value := .node .instantiation (c.value :: ts) }
    | none => return none

/-- All accesses after a value. -/
def accesses (r : Rules) (allowOptional : Bool) (c : Chain) : Parser Chain :=
  iterate c fun c => do
    match ← access? r allowOptional c with
    | some c' => return .inl c'
    | none => return .inr c

/-- The arguments of a call in parentheses. -/
def arguments (r : Rules) : Parser (List Node) :=
  within (fun s => { s with allowIn := true, decorating := false }) do
    enclosed .openParen .closeParen do
      if ← isAt .ellipsis then spread r else r (.assignment true)

/-- All accesses and calls after a value. -/
def calls (r : Rules) (c : Chain) : Parser Chain :=
  iterate c fun c => do
    let c ← accesses r true c
    let optional ← eat .optional
    let c := { c with optional := c.optional || optional }
    let explicit ← if optional then attempt (valueTypeArguments r) else pure none
    if optional && (← token).isTemplate then
      return .inl (← taggedTemplate r c)
    if explicit.isSome || (← isAt .openParen) then
      let (callee, ts) := match c.value, optional with
        | .node .instantiation (v :: ts), false => (v, ts)
        | v, _ => (v, explicit.getD [])
      return .inl { c with value := .call callee ts (← arguments r) }
    if optional then failure
    return .inr c

/-- The word `super`, which stands only before an access or a call. -/
def superValue : Parser Node := do
  expectWord "super"
  faultIf (!(← isAtAny [.dot, .openBracket, .openParen]))
  return .node .superValue []

/-- The parentheses of a dynamic import: a source and perhaps options. -/
def importArguments (r : Rules) : Parser Node := do
  expect .openParen
  let source ← withIn (r (.assignment true))
  let options ←
    if (← eat .comma) && !(← isAt .closeParen) then
      pure [← withIn (r (.assignment true))]
    else pure []
  discard (eat .comma)
  expect .closeParen
  return .importCall source options

/-- `import` inside an expression: a dynamic import or a property of the word. -/
def importExpression (r : Rules) : Parser Node := do
  expectWord "import"
  if ← isAt .openParen then importArguments r
  else
    expect .dot
    if ← eatWord "meta" then return .node .metaProperty []
    else if ← eatWord "source" then importArguments r
    else if ← eatWord "defer" then importArguments r
    else failure

/-- A value with the accesses after it, without calls. -/
def memberBase (r : Rules) : Parser Node := do
  if ← isAtWord "super" then superValue
  else if ← isAtWord "import" then importExpression r
  else primary r

/-- An expression that may stand left of an assignment or be called. -/
def leftSide (r : Rules) : Parser Node := do
  let c ← calls r { value := ← memberBase r }
  return if c.optional then .node .chain [c.value] else c.value

/-- A value made by `new`. -/
def construct (r : Rules) : Parser Node := do
  expectWord "new"
  if ← eat .dot then
    if ← eatWord "target" then return .node .metaProperty [] else failure
  else
    let c ← accesses r false { value := ← memberBase r }
    faultIf (← isAt .optional)
    let callee := match c.value with
      | .node .instantiation ps => ps
      | v => [v]
    let args ← if ← isAt .openParen then arguments r else pure []
    match c.value with
    | .importCall _ _ => fault
    | _ => pure ()
    return .node .construct (callee ++ args)

/-! ## Operators -/

/-- Whether something that can be an operand follows the word on its line. -/
def operandFollows : Parser Bool := do
  let next ← peek
  return !next.afterNewline && (next.isAnyWord || next.isNumber || next.kind == .string)

/-- Whether `await` is an operator at the token. -/
def atAwait : Parser Bool := do
  if ← isAtWord "await" then
    if (← read).awaits then return true else operandFollows
  else return false

/-- Whether `yield` is an operator at the token. -/
def atYield : Parser Bool := do
  if ← isAtWord "yield" then
    if (← read).yields then return true else operandFollows
  else return false

/-- An operand with operators before or after it that change it. -/
def update (r : Rules) : Parser Node := do
  if ← isAtAny [.increment, .decrement] then
    advance
    match (← r .unary).toSimpleTarget with
    | some t => return .node .update [t]
    | none => failure
  else if (← isAt .less) && (← markupOn) then r (.markup false)
  else
    let e ← leftSide r
    if (← isAtAny [.increment, .decrement]) && !(← onNewLine) then
      advance
      match e.toSimpleTarget with
      | some t => return .node .update [t]
      | none => failure
    else return e

/-- A cast with the type in front. -/
def leadingCast (r : Rules) : Parser Node := do
  expect .less
  let t ← r .type
  splitGreater
  expect .greater
  return .node .typed [← r .unary, t]

/-- An operand with unary operators. -/
def unary (r : Rules) : Parser Node := do
  let t ← token
  if t.isOneOf ["delete", "typeof", "void"] || (← isAtAny [.plus, .minus, .bang, .tilde]) then
    advance
    return .node .unary [← r .unary]
  else if t.isMark .less then
    if ← markupOn then r (.markup false)
    else if ← typesOn then leadingCast r
    else failure
  else if ← atAwait then
    faultIf (!(← read).awaits)
    advance
    return .node .await [← within (fun s => { s with awaits := true }) (r .unary)]
  else update r

/-- Joins two operands by the operator `t`.  A unary operator may not stand left of a power,
and `??` may not be mixed with the other logical operators. -/
def combine (t : Token) (a b : Node) : Parser Node := do
  match t.kind with
  | .mark .orElse =>
    faultIf (a.is .logical || b.is .logical)
    return .node .orElse [a, b]
  | .mark .eitherOr => return .node .logical [a, b]
  | .mark .bothAnd => return .node .logical [a, b]
  | .mark .power =>
    faultIf (a.is .unary || a.is .await)
    return .node .binary [a, b]
  | _ => return .node .binary [a, b]

/-- The operators after an operand that bind closer than `floor`. -/
def binaryRest (r : Rules) (floor : Nat) (first : Node) : Parser Node :=
  iterate first fun a => do
    joinGreater
    let t ← token
    match precedence? t with
    | none => return .inr a
    | some p =>
      if (if p = 12 then p < floor else p ≤ floor) then return .inr a
      if t.isWord "in" && !(← read).allowIn then return .inr a
      if t.isOneOf ["as", "satisfies"] then
        if t.afterNewline then return .inr a
        if !(← typesOn) then failure
        advance
        return .inl (.node .typed [a, ← r .type])
      advance
      return .inl (← combine t a (← r (.binary p)))

/-- Operands joined by operators that bind closer than `floor`. -/
def binary (r : Rules) (floor : Nat) : Parser Node := do
  if (← token).kind == .privateName && (← read).allowIn then
    advanceName
    expectWord "in"
    let b ← r (.binary 8)
    if b.is .privateIn ∨ floor ≥ 8 then failure
    binaryRest r floor (.node .privateIn [b])
  else
    binaryRest r floor (← unary r)

def operatorAssignMarks : List Mark :=
  [.plusAssign, .minusAssign, .starAssign, .powerAssign, .slashAssign, .percentAssign,
    .shiftLeftAssign, .shiftRightAssign, .shiftRightFillAssign, .ampersandAssign, .pipeAssign,
    .caretAssign, .bothAndAssign, .eitherOrAssign, .orElseAssign]

/-- `yield` with its operand, which may be missing. -/
def yieldExpression (r : Rules) : Parser Node := do
  faultIf (!(← read).yields)
  expectWord "yield"
  if ← onNewLine then return .node .yield []
  let delegate ← eat .star
  let ends := (← isAtAny [.semicolon, .closeBrace, .closeParen, .closeBracket, .colon, .comma]) ||
    (← token).kind == .done || (← isAtWord "in")
  if delegate || !ends then
    return .node .yield [← within (fun s => { s with yields := true }) (r (.assignment true))]
  else return .node .yield []

/-- What may follow operands: an assignment or a condition. -/
def assignmentRest (r : Rules) (arrowType : Bool) (e : Node) : Parser Node := do
  if ← isAt .assign then
    match e.toTarget with
    | some t =>
      advance
      return .node .assign [t, ← r (.assignment arrowType)]
    | none => failure
  else if ← isAtAny operatorAssignMarks then
    match e.toSimpleTarget with
    | some t =>
      advance
      return .node .operatorAssign [t, ← r (.assignment arrowType)]
    | none => failure
  else if ← eat .question then
    let a ← withIn (r (.assignment false))
    expect .colon
    return .node .conditional [e, a, ← r (.assignment arrowType)]
  else return e

/-- An expression, in which commas may occur. -/
def expression (r : Rules) : Parser Node := do
  let first ← r (.assignment true)
  if ← isAt .comma then
    let items ← iterate [first] fun done => do
      if ← eat .comma then return .inl ((← r (.assignment true)) :: done)
      else return .inr done.reverse
    return .node .sequence items
  else return first

end BundleGraph.Script
