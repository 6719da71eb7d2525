import BundleGraph.Script.Grammar.Class

/-!
# Markup elements

Elements and fragments with their attributes and children.  The tag that closes an
element has to repeat its name.
-/

namespace BundleGraph.Script

open BundleGraph.Script.Parser

/-- A name in a tag; hyphens may occur in it. -/
def markupName : Parser String := do
  if (← token).isAnyWord then
    joinMarkupName
    let name := (← get).here.takeWhile fun c => isNamePart c || c == '-'
    advanceName
    return String.ofList name
  else failure

/-- The name of an element: a name, a name in a space of names, or names with dots.  A name
after a dot has no hyphens. -/
def elementName : Parser (List String) := do
  let first ← markupName
  if ← eat .colon then return [first, ":", ← markupName]
  else
    iterate [first] fun done => do
      if ← eat .dot then
        let name ← markupName
        faultIf (name.contains '-')
        return .inl (done ++ [".", name])
      else return .inr done

/-- A value of an attribute or a child, in braces; a child may also spread its value. -/
def braced (r : Rules) (asChild : Bool) : Parser Node := do
  expect .openBrace
  let finish := if asChild then expectBeforeMarkup .closeBrace else expect .closeBrace
  if ← isAt .closeBrace then
    finish
    return .node .markupEmpty []
  else if asChild && (← isAt .ellipsis) then
    advance
    let e ← withIn (r (.assignment true))
    finish
    return e
  else
    let e ← withIn (r .expression)
    faultIf (e.is .sequence)
    finish
    return e

def attributeValueOf (r : Rules) : Parser Node := do
  let t ← token
  match t.kind with
  | .string => advanceName; return .leaf
  | .mark .openBrace =>
    let e ← braced r false
    faultIf (e.is .markupEmpty)
    return e
  | .mark .less => r (.markup false)
  | _ => failure

/-- One attribute: a spread value, or a name with or without a value. -/
def tagAttribute (r : Rules) : Parser (List Node) := do
  if ← isAt .openBrace then
    expect .openBrace
    expect .ellipsis
    let e ← withIn (r (.assignment true))
    expect .closeBrace
    return [e]
  else
    discard markupName
    if ← eat .colon then discard markupName
    if ← isAt .assign then
      advanceToAttribute
      return [← attributeValueOf r]
    else return []

def tagAttributes (r : Rules) : Parser (List Node) :=
  iterate [] fun done => do
    if (← isAt .openBrace) || (← token).isAnyWord then return .inl (done ++ (← tagAttribute r))
    else return .inr done

/-- The end of a tag; text follows unless the tag ends the outermost element. -/
def endTag (textFollows : Bool) : Parser Unit :=
  if textFollows then expectBeforeMarkup .greater else expect .greater

/-- The children of an element, up to the less sign and slash of the tag that closes it. -/
def elementChildren (r : Rules) : Parser (List Node) :=
  iterate [] fun done => do
    match (← token).kind with
    | .markupText =>
      let rest := (← get).rest
      install rest (markupChild rest)
      return .inl done
    | .mark .openBrace => return .inl ((← braced r true) :: done)
    | .mark .less =>
      if (← peek).isMark .slash then
        expect .less
        expect .slash
        return .inr done.reverse
      else return .inl ((← r (.markup true)) :: done)
    | _ => failure

/-- A fragment, after the less sign that opens it. -/
def fragment (r : Rules) (asChild : Bool) : Parser Node := do
  endTag true
  let cs ← elementChildren r
  endTag asChild
  return .node .markup cs

/-- An element, after the less sign that opens it. -/
def element (r : Rules) (asChild : Bool) : Parser Node := do
  let name ← elementName
  let ts ← heritageArguments r
  let as ← tagAttributes r
  if ← eat .slash then
    endTag asChild
    return .node .markup (ts ++ as)
  else
    endTag true
    let cs ← elementChildren r
    if ← isAt .greater then failure
    let closing ← elementName
    faultIf (closing != name)
    endTag asChild
    return .node .markup (ts ++ as ++ cs)

/-- An element or a fragment. -/
def markup (r : Rules) (asChild : Bool) : Parser Node := do
  expect .less
  if ← isAt .greater then fragment r asChild else element r asChild

end BundleGraph.Script
