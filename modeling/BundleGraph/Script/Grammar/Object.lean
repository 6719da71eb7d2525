import BundleGraph.Script.Grammar.Binding

/-!
# Object literals

Properties, methods, accessors and spread values.  A property `name = value` is read as
well; whether the object is the pattern it would have to be shows only later.
-/

namespace BundleGraph.Script

open BundleGraph.Script.Parser

def Node.functionParameters : Node → List Node
  | .node .function (_ :: .node .parameters ps :: _) => ps.filter fun p => !p.is .receiver
  | _ => []

def Node.hasReturnType : Node → Bool
  | .node .function (_ :: _ :: ret :: _) => !ret.parts.isEmpty
  | _ => false

/-- A getter has no parameter. -/
def checkGetter (f : Node) : Parser Unit :=
  faultIf (!f.functionParameters.isEmpty)

/-- A setter has one parameter, which is no rest parameter, and returns nothing. -/
def checkSetter (f : Node) : Parser Unit :=
  let ps := f.functionParameters
  faultIf (ps.length ≠ 1 || ps.any (·.is .rest) || f.hasReturnType)

/-- A getter or setter after its word. -/
def objectAccessor (r : Rules) (check : Node → Parser Unit) : Parser Node := do
  let name ← memberName r false
  let f ← r (.function .method false false)
  check f
  return .node .method [name.key, f]

/-- `...value` -/
def spread (r : Rules) : Parser Node := do
  expect .ellipsis
  return .node .spread [← r (.assignment true)]

def objectProperty (r : Rules) : Parser Node := do
  if ← isAt .ellipsis then return ← spread r
  let ms ← modifiers false false
  if ← eatModifier "get" then
    checkModifiers [] ms
    return ← objectAccessor r checkGetter
  if ← eatModifier "set" then
    checkModifiers [] ms
    return ← objectAccessor r checkSetter
  let generator ← eat .star
  let t ← token
  let name ← memberName r false
  if generator || (← isAtAny [.openParen, .less]) then
    checkModifiers ["async"] ms
    return .node .method [name.key, ← r (.function .method (ms.contains "async") generator)]
  checkModifiers [] ms
  if t.isName && !(← isAt .colon) then
    checkName t.text
    if ← eat .assign then
      return .node .shorthandDefault [.name t.text, ← withIn (r (.assignment true))]
    else return .node .shorthand [.name t.text]
  else
    expect .colon
    return .node .property [name.key, ← withIn (r (.assignment true))]

def objectLiteral (r : Rules) : Parser Node := do
  expect .openBrace
  let (items, comma) ← withIn (separated .closeBrace (objectProperty r))
  expect .closeBrace
  return .node .object (if comma then items ++ [.node .finalComma []] else items)

end BundleGraph.Script
