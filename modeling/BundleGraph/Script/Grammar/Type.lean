import BundleGraph.Script.Grammar.Class

/-!
# Types

Types are read for their extent and for the few expressions that may occur in them: the
computed names of members.  They name no module that has to be loaded.
-/

namespace BundleGraph.Script

open BundleGraph.Script.Parser

/-- A type and the types below it. -/
def Node.ofType (ps : List Node) : Node :=
  .node .typePart ps

def startsType (t : Token) : Bool :=
  match t.kind with
  | .word => !isReserved t.text ||
      ["void", "null", "this", "typeof", "true", "false", "import", "new", "function"].contains t.text
  | .mark m => [Mark.openBrace, .openBracket, .openParen, .less, .pipe, .ampersand, .minus, .star,
      .question, .bang, .ellipsis].contains m
  | .number => true
  | .bigNumber => true
  | .string => true
  | .template _ => true
  | _ => false

/-! ## Parameters and arguments of types -/

/-- A type parameter with its constraint and default. -/
def typeParameter (r : Rules) : Parser Node := do
  let ms ← modifiers true false
  checkModifiers ["const", "in", "out"] ms
  let name ← bindingName
  let bound ← if ← eatWord "extends" then pure [← r .type] else pure []
  let default ← if ← eat .assign then pure [← r .type] else pure []
  return .ofType (name :: bound ++ default)

/-- Type parameters in angle brackets, if there are any. -/
def typeParameters (r : Rules) : Parser (List Node) := do
  if ← isAt .less then
    let ps ← enclosed .less .greater (typeParameter r)
    faultIf ps.isEmpty
    return [.ofType ps]
  else return []

/-- Type arguments in angle brackets on the same line, if there are any. -/
def typeArguments (r : Rules) : Parser (List Node) := do
  if ← onNewLine then return []
  splitLess
  if ← isAt .less then
    expect .less
    let (ts, _) ← separated .greater (r .type)
    splitGreater
    expect .greater
    faultIf ts.isEmpty
    return ts
  else return []

/-- Names with dots between them; any word may stand first, as in `as const`. -/
def entityName : Parser Unit := do
  discard anyName
  iterate () fun _ => do
    if ← eat .dot then
      let t ← token
      if t.kind == .privateName then advanceName else discard anyName
      return .inl ()
    else return .inr ()

/-- A named type with its arguments. -/
def typeReference (r : Rules) : Parser Node := do
  entityName
  return .ofType (← typeArguments r)

/-! ## Types that functions return -/

/-- What a function returns: a type, or what its result says about a parameter. -/
def returnedType (r : Rules) : Parser Node := do
  let t ← token
  let next ← peek
  if t.isWord "asserts" && next.isAnyWord && !next.afterNewline &&
      (next.isName || next.isWord "this") then
    advance
    discard anyName
    if ← eatWord "is" then r .type else return .ofType []
  else if t.isName && next.isWord "is" && !next.afterNewline then
    advanceName
    advance
    r .type
  else r .type

/-- The type a function returns, after a colon, if it is given. -/
def returnType (r : Rules) : Parser (List Node) := do
  if ← eat .colon then return [← returnedType r] else return []

def skipParameterStart (r : Rules) : Parser Bool := do
  let _ ← modifiers false false
  let t ← token
  if t.isName || t.isWord "this" then
    advanceName
    return true
  else if t.isMark .openBracket || t.isMark .openBrace then
    return (← attempt (r .pattern)).isSome
  else return false

/-- Whether parameters, and not a type in parentheses, stand at the token. -/
def atParameters (r : Rules) : Parser Bool :=
  lookahead do
    expect .openParen
    if ← isAtAny [.closeParen, .ellipsis] then return true
    if ← skipParameterStart r then
      if ← isAtAny [.colon, .comma, .question, .assign] then return true
      if ← eat .closeParen then isAt .arrow else return false
    else return false

/-- Whether the type of a function or of a constructor stands at the token. -/
def atFunctionType (r : Rules) : Parser Bool := do
  if (← isAt .less) || (← isAtWord "new") then return true
  else if ← isAt .openParen then atParameters r
  else return (← isAtWord "abstract") && (← peek).isWord "new"

def functionType (r : Rules) : Parser Node := do
  discard (eatWord "abstract")
  let role := if ← eatWord "new" then FunctionRole.method else .expression
  let ts ← typeParameters r
  let ps ← parameters r role
  expect .arrow
  return .ofType (ts ++ [ps, ← returnedType r])

/-! ## Members of object types -/

/-- The parameters and the returned type of a signature. -/
def signature (r : Rules) : Parser (List Node) := do
  let ts ← typeParameters r
  let ps ← parameters r .method
  return ts ++ [ps] ++ (← returnType r)

/-- An accessor in an object type, after its word; a setter returns nothing. -/
def signatureAccessor (r : Rules) (isSetter : Bool) : Parser Node := do
  let name ← memberName r false
  let ps ← parameters r .method
  let ret ← returnType r
  faultIf (isSetter && !ret.isEmpty)
  endTypeMember
  return .ofType (name.key :: ps :: ret)

def typeMember (r : Rules) : Parser Node := do
  let t ← token
  if t.isMark .openParen || t.isMark .less then
    let s ← signature r
    endTypeMember
    return .ofType s
  let next ← peek
  if t.isWord "new" && (next.isMark .openParen || next.isMark .less) then
    advance
    let s ← signature r
    endTypeMember
    return .ofType s
  let ms ← modifiers false false
  checkModifiers ["readonly"] ms
  if ← eatModifier "get" then return ← signatureAccessor r false
  if ← eatModifier "set" then return ← signatureAccessor r true
  if ← atIndexSignature then return ← indexSignature r
  let name ← memberName r false
  discard (eat .question)
  if ← isAtAny [.openParen, .less] then
    let s ← signature r
    endTypeMember
    return .ofType (name.key :: s)
  else
    let t ← typeAnnotation r
    endTypeMember
    return .ofType (name.key :: t)

def typeMembers (r : Rules) : Parser (List Node) := do
  expect .openBrace
  let members ← iterate [] fun done => do
    if ← isAt .closeBrace then return .inr done.reverse
    else return .inl ((← typeMember r) :: done)
  expect .closeBrace
  return members

/-- Whether a type that maps over keys stands at the brace. -/
def atMappedType : Parser Bool :=
  lookahead do
    expect .openBrace
    if ← isAtAny [.plus, .minus] then
      advanceName
      return ← isAtWord "readonly"
    discard (eatWord "readonly")
    expect .openBracket
    let t ← token
    if t.isName then
      advanceName
      isAtWord "in"
    else return false

/-- A sign that adds or removes a modifier, and the modifier. -/
def mappedModifier (has : Parser Bool) : Parser Unit := do
  if ← isAtAny [.plus, .minus] then
    advance
    unless ← has do failure
  else discard has

/-- A type that maps over keys. -/
def mappedType (r : Rules) : Parser Node := do
  expect .openBrace
  mappedModifier (eatWord "readonly")
  expect .openBracket
  discard anyName
  expectWord "in"
  let keys ← r .type
  let renamed ← if ← eatWord "as" then pure [← r .type] else pure []
  expect .closeBracket
  mappedModifier (eat .question)
  let t ← typeAnnotation r
  endStatement
  expect .closeBrace
  return .ofType (keys :: renamed ++ t)

/-! ## The other types -/

/-- Whether an element of a tuple is named. -/
def atElementName : Parser Bool :=
  lookahead do
    let t ← token
    if t.isAnyWord then
      advanceName
      if ← isAt .colon then return true
      if ← eat .question then isAt .colon else return false
    else return false

def tupleElement (r : Rules) : Parser Node := do
  discard (eat .ellipsis)
  if ← atElementName then
    discard anyName
    discard (eat .question)
    expect .colon
    r .type
  else
    let t ← r .type
    discard (eat .question)
    return t

/-- A template of types. -/
def templateType (r : Rules) : Parser Node := do
  let ts ← iterate [] fun done => do
    match (← token).kind with
    | .template last =>
      advanceName
      if last then return .inr done.reverse
      let t ← r .type
      joinTemplate
      return .inl (t :: done)
    | _ => failure
  return .ofType ts

/-- The type of a module's values, by the module's name. -/
def importType (r : Rules) : Parser Node := do
  expectWord "import"
  expect .openParen
  let t ← r .type
  let options ←
    if (← eat .comma) && !(← isAt .closeParen) then pure [← objectLiteral r] else pure []
  discard (eat .comma)
  expect .closeParen
  iterate () fun _ => do
    if ← eat .dot then
      discard anyName
      return .inl ()
    else return .inr ()
  return .ofType (t :: options ++ (← typeArguments r))

/-- A type that is not built from others by operators. -/
def primaryType (r : Rules) : Parser Node := do
  let t ← token
  match t.kind with
  | .word =>
    match t.text with
    | "void" => advance; return .ofType []
    | "null" => advance; return .ofType []
    | "true" => advance; return .ofType []
    | "false" => advance; return .ofType []
    | "this" =>
      advance
      if (← isAtWord "is") && !(← onNewLine) then
        advance
        r .type
      else return .ofType []
    | "typeof" =>
      advance
      if ← isAtWord "import" then importType r
      else typeReference r
    | "import" => importType r
    | _ => typeReference r
  | .string => advanceName; return .ofType []
  | .number => advanceName; return .ofType []
  | .bigNumber => advanceName; return .ofType []
  | .template _ => templateType r
  | .mark .minus =>
    advance
    if (← token).isNumber then
      advanceName
      return .ofType []
    else failure
  | .mark .openBrace =>
    if ← atMappedType then mappedType r else return .ofType (← typeMembers r)
  | .mark .openBracket => return .ofType (← enclosed .openBracket .closeBracket (tupleElement r))
  | .mark .openParen =>
    advance
    let t ← r .type
    expect .closeParen
    return t
  | _ => failure

/-- A type with arrays and indices after it. -/
def postfixType (r : Rules) : Parser Node := do
  iterate (← primaryType r) fun t => do
    if ← onNewLine then return .inr t
    match (← token).kind with
    | .mark .bang => advance; return .inl t
    | .mark .question =>
      if startsType (← peek) then return .inr t
      advance
      return .inl t
    | .mark .openBracket =>
      advance
      if ← eat .closeBracket then return .inl t
      let i ← r .type
      expect .closeBracket
      return .inl (.ofType [t, i])
    | _ => return .inr t

/-- The bound of an inferred type, unless it reads as a condition. -/
def inferredBound (r : Rules) : Parser (List Node) := do
  let plain := (← read).plainTypes
  let bound ← attempt do
    expectWord "extends"
    let t ← within (fun s => { s with plainTypes := true }) (r .type)
    if plain then return t
    else if ← isAt .question then failure
    else return t
  return bound.toList

/-- A type with operators before it. -/
def operandType (r : Rules) : Parser Node := do
  let t ← token
  if t.isOneOf ["keyof", "unique", "readonly"] then
    advance
    r .operandType
  else if t.isWord "infer" then
    advance
    let name ← bindingName
    return .ofType (name :: (← inferredBound r))
  else within (fun s => { s with plainTypes := false }) (postfixType r)

/-- Types joined by a mark, which may also stand before the first. -/
def joinedTypes (m : Mark) (item : Parser Node) : Parser Node := do
  discard (eat m)
  let first ← item
  if ← isAt m then
    let ts ← iterate [first] fun done => do
      if ← eat m then return .inl ((← item) :: done)
      else return .inr done.reverse
    return .ofType ts
  else return first

/-- The members of a union: the type of a function is read there too. -/
def unionMember (r : Rules) : Parser Node :=
  joinedTypes .ampersand do
    if ← atFunctionType r then functionType r else r .operandType

def fullType (r : Rules) : Parser Node := do
  if ← atFunctionType r then return ← functionType r
  let t ← joinedTypes .pipe (unionMember r)
  if !(← read).plainTypes && !(← onNewLine) && (← isAtWord "extends") then
    advance
    let bound ← within (fun s => { s with plainTypes := true }) (r .type)
    expect .question
    let a ← within (fun s => { s with plainTypes := false }) (r .type)
    expect .colon
    let b ← within (fun s => { s with plainTypes := false }) (r .type)
    return .ofType [t, bound, a, b]
  else return t

end BundleGraph.Script
