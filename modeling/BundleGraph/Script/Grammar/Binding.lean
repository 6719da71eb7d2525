import BundleGraph.Script.Grammar.Modifier

/-!
# Binding patterns, parameters and functions

What declarations and parameters bind: names, array patterns and object patterns, each
with an optional type and default.  A function is read from its type parameters on; what
stands before them differs from place to place.
-/

namespace BundleGraph.Script

open BundleGraph.Script.Parser

/-- A type after a colon, where types are on. -/
def typeAnnotation (r : Rules) : Parser (List Node) := do
  if (← typesOn) && (← isAt .colon) then
    advance
    return [← r .type]
  else return []

def withType (p : Node) : List Node → Node
  | [] => p
  | ts => .node .patternTyped (p :: ts)

/-- A default after a pattern. -/
def withDefault (r : Rules) (p : Node) : Parser Node := do
  if ← eat .assign then
    return .node .patternDefault [p, ← withIn (r (.assignment true))]
  else return p

/-- A list in which the last item may be a rest item, and nothing may follow that one. -/
def separatedWithRest (close : Mark) (item rest : Parser Node) : Parser (List Node) := do
  let (items, comma) ← separated close do
    if ← isAt .ellipsis then rest else item
  let isRest := fun n : Node => n.is .rest
  faultIf (items.dropLast.any isRest)
  faultIf (comma && items.getLast?.any isRest)
  return items

/-- `...pattern` -/
def restPattern (r : Rules) : Parser Node := do
  expect .ellipsis
  let p ← r .pattern
  return .node .rest [withType p (← typeAnnotation r)]

def patternProperty (r : Rules) : Parser Node := do
  let t ← token
  let name ← memberName r false
  if t.isName && !(← isAt .colon) then
    checkName t.text
    withDefault r (.node .binding [.name t.text])
  else
    expect .colon
    return .node .property [name.key, ← r .element]

/-- An object pattern; what its rest takes must be a plain name. -/
def objectPattern (r : Rules) : Parser Node := do
  expect .openBrace
  let items ← separatedWithRest .closeBrace (patternProperty r) (restPattern r)
  expect .closeBrace
  faultIf (items.any fun n => n.is .rest && !(n.parts.all (·.is .binding)))
  return .node .objectPattern items

/-- An array pattern, in which elements may be missing. -/
def arrayPattern (r : Rules) : Parser Node := do
  expect .openBracket
  let item := do
    if ← isAtAny [.comma, .closeBracket] then return .node .hole []
    else r .element
  let items ← separatedWithRest .closeBracket item (restPattern r)
  expect .closeBracket
  return .node .arrayPattern items

/-- What a declaration binds. -/
def bindingPattern (r : Rules) : Parser Node := do
  match (← token).kind with
  | .mark .openBrace => objectPattern r
  | .mark .openBracket => arrayPattern r
  | _ => bindingName

/-- A pattern with its type and default. -/
def bindingElement (r : Rules) : Parser Node := do
  let p ← r .pattern
  if ← typesOn then discard (eat .question)
  withDefault r (withType p (← typeAnnotation r))

/-- Decorators, one after the other. -/
def decorators (r : Rules) : Parser (List Node) :=
  iterate [] fun done => do
    if ← isAt .at then return .inl ((← r .decorator) :: done)
    else return .inr done.reverse

def parameter (r : Rules) (role : FunctionRole) : Parser Node := do
  let ds ← decorators r
  let ms ← modifiers false false
  let types ← typesOn
  let allowed :=
    if types && role == .constructor then "readonly" :: "override" :: accessWords else []
  checkModifiers allowed ms
  let p ← r .element
  return if ds.isEmpty then p else .node .parameters (ds ++ [p])

def restParameter (r : Rules) : Parser Node := do
  let _ ← decorators r
  restPattern r

/-- Parameters in parentheses; `this` with its type may come first and is not counted. -/
def parameters (r : Rules) (role : FunctionRole) : Parser Node := do
  expect .openParen
  let self ←
    if (← typesOn) && (← isAtWord "this") then
      advance
      let t ← typeAnnotation r
      unless ← isAt .closeParen do expect .comma
      pure [.node .receiver t]
    else pure []
  let items ← separatedWithRest .closeParen (parameter r role) (restParameter r)
  expect .closeParen
  return .node .parameters (items ++ self)

/-- Whether `this` stands among parameters. -/
def Node.hasReceiver (ps : Node) : Bool :=
  ps.parts.any (·.is .receiver)

/-- A function from its type parameters to the end of its body.  Where types are on, the
body may be missing. -/
def functionTail (r : Rules) (typeParameters : Parser (List Node)) (returnType : Parser (List Node))
    (role : FunctionRole) (async generator : Bool) : Parser Node := do
  let types ← typesOn
  let (head, body) ← within
      (fun s => { s with allowIn := true, awaits := async, yields := generator,
                         decorating := false }) do
    let ts ← if types then typeParameters else pure []
    let ps ← parameters r role
    let ret ← if types then returnType else pure []
    let body ← if ← isAt .openBrace then pure [← r .body] else pure []
    return ([.node .typePart ts, ps, .node .typePart ret], body)
  if body.isEmpty then
    if types then endStatement else failure
  return .node .function (head ++ body)

end BundleGraph.Script
