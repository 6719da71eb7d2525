import BundleGraph.Script.Grammar.Type

/-!
# Declarations

Variables, functions and the declarations that the extension of types adds: aliases,
interfaces, enumerations and modules.
-/

namespace BundleGraph.Script

open BundleGraph.Script.Parser

/-! ## Variables -/

/-- What a variable declaration stands for. -/
inductive VariableKind where
  | var | let | const | using
  deriving DecidableEq

/-- Constants and patterns need a value, unless the declaration only describes. -/
def checkValue (kind : VariableKind) (pattern : Node) (hasValue : Bool) : Parser Unit := do
  let isPattern := pattern.is .arrayPattern || pattern.is .objectPattern
  faultIf (!hasValue && !(← read).ambient && (isPattern || kind == .const || kind == .using))

/-- One declared variable: what it binds, its type and its value. -/
def declarator (r : Rules) (kind : VariableKind) (inLoop : Bool) : Parser Node := do
  let p ← if kind == .using then bindingName else r .pattern
  if ← typesOn then
    if p.is .binding && (← isAt .bang) && !(← onNewLine) then advance
    discard (eat .question)
  let t ← typeAnnotation r
  let v ← if ← eat .assign then pure [← r (.assignment true)] else pure []
  if !inLoop then checkValue kind p (!v.isEmpty)
  return .node .declarator (p :: t ++ v)

/-- Declared variables with commas between them. -/
def declarators (r : Rules) (kind : VariableKind) (inLoop : Bool) : Parser (List Node) := do
  let first ← declarator r kind inLoop
  iterate [first] fun done => do
    if ← eat .comma then return .inl ((← declarator r kind inLoop) :: done)
    else return .inr done.reverse

/-- Variables after the word that declares them. -/
def variableStatement (r : Rules) (kind : VariableKind) (place : Place) : Parser Node := do
  let ds ← declarators r kind false
  endStatement
  faultIf (place == .single && kind != .var)
  return .node .statement ds

/-! ## Functions -/

/-- A function declaration from the word `function` on. -/
def functionDeclaration (r : Rules) (role : FunctionRole) (async : Bool) (place : Place) :
    Parser Node := do
  expectWord "function"
  let generator ← eat .star
  let name ← if (← token).isName then pure [← bindingName] else pure []
  faultIf (name.isEmpty && role != .defaultExport)
  let f ← r (.function role async generator)
  faultIf (place == .single && (async || generator))
  return .node .statement (name ++ [f])

/-! ## Declarations of types and modules -/

/-- Whether a declaration that the extension of types adds starts at the token. -/
def atTypeDeclaration : Parser Bool := do
  if ← typesOn then
    lookahead do
      iterate () fun _ => do
        let t ← token
        if t.isOneOf ["var", "let", "const", "function", "class", "enum"] then return .inr true
        else if t.isOneOf ["interface", "type"] then
          advanceName
          return .inr ((← token).isName && !(← onNewLine))
        else if t.isOneOf ["module", "namespace"] then
          advanceName
          let n ← token
          return .inr (!n.afterNewline && (n.isName || n.kind == .string))
        else if t.isOneOf ["abstract", "accessor", "async", "declare", "private", "protected",
            "public", "readonly"] then
          advanceName
          if ← onNewLine then return .inr false
          if t.text == "declare" && (← isAtWord "type") then return .inr true
          return .inl ()
        else if t.isWord "global" then
          advanceName
          let n ← token
          return .inr (n.isMark .openBrace || n.isName || n.isWord "export")
        else if t.isWord "import" then
          advanceName
          let n ← token
          return .inr (n.kind == .string || n.isMark .star || n.isMark .openBrace || n.isName)
        else if t.isWord "export" then
          advanceName
          let n ← if ← isAtWord "type" then peek else token
          if n.isMark .assign || n.isMark .star || n.isMark .openBrace || n.isMark .at ||
              n.isOneOf ["default", "as"] then
            return .inr true
          return .inl ()
        else if t.isWord "static" then
          advanceName
          return .inl ()
        else return .inr false
  else return false

/-- `type name = …` -/
def typeAlias (r : Rules) : Parser Node := do
  expectWord "type"
  let name ← bindingName
  let ts ← typeParameters r
  expect .assign
  let t ← r .type
  endStatement
  return .ofType (name :: ts ++ [t])

/-- `interface name …` -/
def interfaceDeclaration (r : Rules) : Parser Node := do
  expectWord "interface"
  let name ← bindingName
  let ts ← typeParameters r
  let h ← heritageClauses r
  faultIf h.hasImplements
  return .ofType (name :: ts ++ h.parts ++ (← typeMembers r))

/-- One member of an enumeration; a computed name has to be a string or a plain template. -/
def enumMember (r : Rules) : Parser Node := do
  let t ← token
  match t.kind with
  | .word => advanceName
  | .string => advanceName
  | .mark .openBracket =>
    advance
    let key ← withIn (r .expression)
    expect .closeBracket
    faultIf !(key.isString || (key.is .template && key.parts.isEmpty))
  | .number => fault; advanceName
  | .bigNumber => fault; advanceName
  | _ => failure
  let v ← if ← eat .assign then pure [← withIn (r (.assignment true))] else pure []
  return .node .property v

/-- `enum name …` -/
def enumDeclaration (r : Rules) : Parser Node := do
  expectWord "enum"
  let name ← bindingName
  let members ← enclosed .openBrace .closeBrace (enumMember r)
  return .node .statement (name :: members)

/-- The body of a module, if it is not left out. -/
def optionalModuleBody (r : Rules) : Parser (List Node) := do
  if ← isAt .openBrace then return [← r .moduleBody]
  else
    endStatement
    return []

/-- A module named by a string or by names with dots. -/
def moduleDeclaration (r : Rules) : Parser Node := do
  if (← token).kind == .string then
    advanceName
    return .node .statement (← optionalModuleBody r)
  else
    discard bindingName
    iterate () fun _ => do
      if ← eat .dot then
        discard anyName
        return .inl ()
      else return .inr ()
    return .node .statement [← r .moduleBody]

/-- `import name = …`, after the name: a required module or names with dots. -/
def importEquals : Parser Node := do
  expect .assign
  if (← isAtWord "require") && (← peek).isMark .openParen then
    advance
    expect .openParen
    discard stringLiteral
    expect .closeParen
  else entityName
  endStatement
  return .node .statement []

/-- A declaration, after its modifiers and decorators. -/
def declarationAfter (r : Rules) (ms : List String) (ds : List Node) : Parser Node := do
  let types ← typesOn
  let t ← token
  faultIf (!ds.isEmpty && t.text != "class")
  within (fun s => { s with ambient := s.ambient || ms.contains "declare" }) do
    match t.text with
    | "var" => advance; checkModifiers ["declare"] ms; variableStatement r .var .list
    | "let" => advance; checkModifiers ["declare"] ms; variableStatement r .let .list
    | "const" =>
      advance
      checkModifiers ["declare"] ms
      if types && (← isAtWord "enum") then enumDeclaration r
      else variableStatement r .const .list
    | "class" => r (.classRest ms ds)
    | "function" =>
      checkModifiers ["declare", "async"] ms
      functionDeclaration r .declaration (ms.contains "async") .list
    | _ =>
      if !types then failure
      match t.text with
      | "import" =>
        advance
        discard bindingName
        importEquals
      | "type" => checkModifiers ["declare"] ms; typeAlias r
      | "interface" => checkModifiers ["declare"] ms; interfaceDeclaration r
      | "enum" => checkModifiers ["declare"] ms; enumDeclaration r
      | "global" =>
        checkModifiers ["declare"] ms
        advance
        return .node .statement [← r .moduleBody]
      | "module" => advance; checkModifiers ["declare"] ms; moduleDeclaration r
      | "namespace" =>
        advance
        checkModifiers ["declare"] ms
        if (← token).kind == .string then failure
        moduleDeclaration r
      | _ => failure

def declaration (r : Rules) (ds : List Node) : Parser Node := do
  if ← atAsyncFunction then
    advance
    faultIf (!ds.isEmpty)
    functionDeclaration r .declaration true .list
  else
    let ms ← modifiers false false
    declarationAfter r ms ds

end BundleGraph.Script
