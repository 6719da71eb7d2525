import BundleGraph.Script.Grammar.Expression

/-!
# Classes and decorators

A class from the word `class` on: its name, what it extends and implements, and its
members.
-/

namespace BundleGraph.Script

open BundleGraph.Script.Parser

/-- A decorator; an index may not stand in it outside parentheses. -/
def decorator (r : Rules) : Parser Node := do
  expect .at
  return .node .decorator [← within (fun s => { s with decorating := true }) (leftSide r)]

/-- Types after a value in a heritage clause. -/
def heritageArguments (r : Rules) : Parser (List Node) := do
  splitLess
  if (← typesOn) && (← isAt .less) then
    expect .less
    let (ts, _) ← separated .greater (r .type)
    splitGreater
    expect .greater
    faultIf ts.isEmpty
    return ts
  else return []

/-- One value that is extended, with its type arguments. -/
def heritage (r : Rules) : Parser (List Node) := do
  match ← leftSide r with
  | .node .instantiation ps => return ps
  | e => return e :: (← heritageArguments r)

/-- Items with commas between them. -/
def commaList (item : Parser (List Node)) : Parser (List Node × Nat) := do
  let first ← item
  iterate (first, 1) fun (done, n) => do
    if ← eat .comma then return .inl (done ++ (← item), n + 1)
    else return .inr (done, n)

/-- What a declaration extends and implements, and how many values it extends. -/
structure Heritage where
  parts : List Node := []
  extended : Nat := 0
  hasExtends : Bool := false
  hasImplements : Bool := false

/-- The clauses that say what a declaration extends and implements. -/
def heritageClauses (r : Rules) : Parser Heritage :=
  iterate {} fun h => do
    if ← isAtWord "extends" then
      faultIf (h.hasExtends || h.hasImplements)
      advance
      let (es, n) ← commaList (heritage r)
      return .inl { h with parts := h.parts ++ es, extended := h.extended + n, hasExtends := true }
    else if ← isAtWord "implements" then
      faultIf (h.hasImplements || !(← typesOn))
      advance
      let (es, _) ← commaList (return [← r .operandType])
      return .inl { h with parts := h.parts ++ es, hasImplements := true }
    else return .inr h

/-- The words that may stand before a member. -/
def memberModifiers (types : Bool) : List String :=
  if types then
    ["static", "async", "accessor", "abstract", "declare", "override", "readonly"] ++ accessWords
  else ["static", "async", "accessor"]

/-- Faults that depend on the name of a member. -/
def checkMemberName (name : MemberName) (ms : List String) (isMethod accessorOrOdd : Bool) :
    Parser Unit := do
  let isStatic := ms.contains "static"
  faultIf (name.hidden && name.text == some "constructor")
  faultIf (isStatic && !name.hidden && !name.computed && name.text == some "prototype")
  faultIf (!isStatic && !name.hidden && !name.computed && name.text == some "constructor" &&
    (!isMethod || accessorOrOdd))

/-- A getter or setter after its word. -/
def classAccessor (r : Rules) (check : Node → Parser Unit) (ds : List Node) (ms : List String) :
    Parser Node := do
  let name ← memberName r true
  checkMemberName name ms true true
  faultIf (ms.contains "async")
  let f ← within (fun s => { s with ambient := s.ambient || ms.contains "declare" })
    (r (.function .method false false))
  check f
  return .node .method (ds ++ [name.key, f])

/-- Whether a signature for indices stands at the bracket. -/
def atIndexSignature : Parser Bool := do
  if (← typesOn) && (← isAt .openBracket) then
    lookahead do
      advanceName
      let t ← token
      if t.isMark .ellipsis || t.isMark .closeBracket then return true
      if t.isModifier then
        advanceName
        if (← token).isName then return true
      else if !t.isName then return false
      else advanceName
      if ← isAtAny [.colon, .comma] then return true
      if !(← isAt .question) then return false
      advanceName
      isAtAny [.colon, .comma, .closeBracket]
  else return false

/-- The end of a member of a type: a mark, or a new line. -/
def endTypeMember : Parser Unit := do
  if ← eat .comma then pure () else endStatement

def indexSignature (r : Rules) : Parser Node := do
  let ps ← enclosed .openBracket .closeBracket do
    let _ ← modifiers false false
    let _ ← anyName
    return .node .typePart (← typeAnnotation r)
  let t ← typeAnnotation r
  faultIf (ps.length ≠ 1 || t.isEmpty)
  endTypeMember
  return .node .typePart (ps ++ t)

/-- The constructor of a class, if the word and a parenthesis stand there. -/
def constructor? (r : Rules) (ds : List Node) (ms : List String) : Parser (Option Node) := do
  let t ← token
  if (t.isWord "constructor" || (t.kind == .string && t.text == "constructor")) &&
      !ms.contains "static" then
    let next ← peek
    if next.isMark .openParen || next.isMark .less then
      advanceName
      faultIf (next.isMark .less || ms.contains "async")
      let f ← r (.function .constructor false false)
      faultIf (f.parts.any Node.hasReceiver)
      return some (.node .method (ds ++ [.leaf, f]))
    else return none
  else return none

/-- A property or method after its modifiers. -/
def propertyOrMethod (r : Rules) (ds : List Node) (ms : List String) : Parser Node := do
  let types ← typesOn
  let generator ← eat .star
  let name ← memberName r true
  let optional ← if types then eat .question else pure false
  if generator || (← isAtAny [.openParen, .less]) then
    checkMemberName name ms true (generator || ms.contains "async")
    let f ← r (.function .method (ms.contains "async") generator)
    return .node .method (ds ++ [name.key, f])
  else
    checkMemberName name ms false false
    faultIf (ms.contains "async")
    let definite ←
      if types && (← isAt .bang) && !(← onNewLine) then advance; pure true else pure false
    faultIf (definite && optional)
    let t ← typeAnnotation r
    let v ←
      if ← eat .assign then
        pure [← within (fun s => { s with allowIn := true, yields := false, awaits := false })
          (r (.assignment true))]
      else pure []
    endStatement
    return .node .property (ds ++ [name.key] ++ t ++ v)

def classMember (r : Rules) : Parser Node := do
  let ds ← decorators r
  let types ← typesOn
  let ms ← modifiers true true
  if ← atStaticBlock then
    faultIf (!ms.isEmpty || !ds.isEmpty)
    advance
    return ← within (fun s => { s with awaits := true, yields := false, returns := false }) (r .block)
  if ← atIndexSignature then
    checkModifiers (memberModifiers types) ms
    faultIf (!ds.isEmpty)
    return ← indexSignature r
  checkModifiers (memberModifiers types) ms
  if ← eatModifier "get" then return ← classAccessor r checkGetter ds ms
  if ← eatModifier "set" then return ← classAccessor r checkSetter ds ms
  if let some c ← constructor? r ds ms then return c
  within (fun s => { s with ambient := s.ambient || ms.contains "declare" })
    (propertyOrMethod r ds ms)

/-- The members of a class in braces; semicolons between them mean nothing. -/
def classBody (r : Rules) : Parser (List Node) := do
  expect .openBrace
  let members ← iterate [] fun done => do
    if ← eat .semicolon then return .inl done
    else if ← isAt .closeBrace then return .inr done.reverse
    else return .inl ((← classMember r) :: done)
  expect .closeBrace
  return members

/-- A class from the word `class` on, with what stood before it. -/
def classTail (r : Rules) (typeParameters : Parser (List Node)) (ms : List String) (ds : List Node) :
    Parser Node := do
  expectWord "class"
  let name ←
    if (← token).isName && !(← isAtWord "implements") then pure [← bindingName] else pure []
  let types ← typesOn
  let ts ← if types then typeParameters else pure []
  let h ← heritageClauses r
  faultIf (h.extended > 1)
  checkModifiers ["declare", "abstract"] ms
  let body ← within (fun s => { s with ambient := s.ambient || ms.contains "declare" }) (classBody r)
  return .node .classForm (ds ++ name ++ ts ++ h.parts ++ [.node .block body])

end BundleGraph.Script
