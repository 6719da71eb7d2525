import BundleGraph.Script.Grammar.Declaration

/-!
# Imports and exports

The declarations that name other modules, with the attributes they may carry.  Where
types are on, a declaration or a single name may be marked as being only about types.
-/

namespace BundleGraph.Script

open BundleGraph.Script.Parser

/-- One attribute of an import: a key and a string. -/
def importAttribute : Parser Unit := do
  if (← token).kind == .string then discard stringLiteral else discard anyName
  expect .colon
  discard stringLiteral

/-- The attributes after a source, if there are any. -/
def importAttributes : Parser Unit := do
  if (← isAtWord "with") || ((← isAtWord "assert") && !(← onNewLine)) then
    advance
    discard (enclosed .openBrace .closeBrace importAttribute)

/-- A name for import or export: a word, or a string without half a surrogate pair. -/
structure ModuleName where
  text : String
  isString : Bool := false

/-- Reads a name for import or export. -/
def moduleName : Parser ModuleName := do
  let t ← token
  if t.kind == .string then
    advanceName
    return { text := t.text, isString := true }
  else return { text := ← anyName }

/-- Whether a name for import or export stands at the token. -/
def atModuleName : Parser Bool := do
  let t ← token
  return t.isAnyWord || t.kind == .string

/-- One item of an import or export list: the name on the other side and the name here. -/
structure ModuleItem where
  source : ModuleName
  newName : Option ModuleName := none
  typeOnly : Bool := false

/-- Reads `name` or `name as newName`. -/
def plainItem (typeOnly : Bool) : Parser ModuleItem := do
  let name ← moduleName
  if ← eatWord "as" then return { source := name, newName := some (← moduleName), typeOnly }
  else return { source := name, typeOnly }

/-- Reads an item that starts with the word `type`, which may mark the item, be its name, or
be followed by one or two words `as`. -/
def typeItem : Parser ModuleItem := do
  let first : ModuleName := { text := ← anyName }
  if ← isAtWord "as" then
    let as1 ← moduleName
    if ← isAtWord "as" then
      let as2 ← moduleName
      if ← atModuleName then
        return { source := as1, newName := some (← moduleName), typeOnly := true }
      else return { source := first, newName := some as2 }
    else if ← atModuleName then return { source := first, newName := some (← moduleName) }
    else return { source := as1, typeOnly := true }
  else if ← atModuleName then plainItem true
  else return { source := first }

/-- Reads one item of an import or export list. -/
def moduleItem : Parser ModuleItem := do
  if (← typesOn) && (← isAtWord "type") then typeItem else plainItem false

/-- An imported item has to bind a name. -/
def checkImported (i : ModuleItem) : Parser Unit := do
  let bound := i.newName.getD i.source
  if bound.isString || isReserved bound.text then fault
  else checkName bound.text

/-- The items of an import or export list.  Where the whole declaration is about types, no
item may say so again. -/
def moduleItems (typeOnly : Bool) : Parser (List ModuleItem) := do
  let items ← enclosed .openBrace .closeBrace moduleItem
  faultIf (typeOnly && items.any (·.typeOnly))
  return items

def importItems (typeOnly : Bool) : Parser Unit := do
  (← moduleItems typeOnly).forM checkImported

/-- `* as name` -/
def importAll : Parser Unit := do
  expect .star
  expectWord "as"
  discard bindingName

/-- What an import takes from a module, after the default it may take. -/
def importClauseRest (hasDefault typeOnly : Bool) : Parser Unit := do
  if hasDefault then
    if ← eat .comma then
      if ← isAt .star then importAll else importItems typeOnly
  else if ← isAt .star then importAll
  else importItems typeOnly

/-- The source of an import with its attributes. -/
def importSource (typeOnly : Bool) : Parser Node := do
  expectWord "from"
  let source ← stringLiteral
  importAttributes
  endStatement
  return .importDecl typeOnly source

/-- Whether the word after `import` marks the declaration, and is no name that it binds. -/
def atImportMark (w : String) (types : Bool) : Parser Bool := do
  let next ← token
  match w with
  | "type" =>
    if !types then return false
    if next.isMark .openBrace || next.isMark .star then return true
    if next.isWord "from" then
      let after ← peek
      return after.isWord "from" || after.isMark .assign
    return next.isName
  | "defer" => return next.isMark .star
  | "source" =>
    if next.isWord "from" then return (← peek).isWord "from" else return next.isName
  | _ => return false

/-- An import declaration after the word `import`. -/
def importDeclaration : Parser Node := do
  let t ← token
  if t.kind == .string then
    let source ← stringLiteral
    importAttributes
    endStatement
    return .importDecl false source
  let types ← typesOn
  let first ← if t.isName then checkName t.text; advanceName; pure (some t.text) else pure none
  match first with
  | none =>
    importClauseRest false false
    importSource false
  | some w =>
    let marked ← atImportMark w types
    let typeOnly := marked && w == "type"
    let bound ←
      if !marked then pure true
      else if (← token).isName then
        discard bindingName
        pure true
      else pure false
    if types && bound && (← isAt .assign) then return ← importEquals
    importClauseRest bound typeOnly
    importSource typeOnly

/-! ## Exports -/

/-- A name that is exported from here may be neither a string nor a reserved word. -/
def checkExported (i : ModuleItem) : Parser Unit :=
  faultIf (i.source.isString || isReserved i.source.text || strictWords.contains i.source.text)

/-- A list of exported items, with a source or not. -/
def exportItems (typeOnly : Bool) : Parser Node := do
  let items ← moduleItems typeOnly
  let source ←
    if ← eatWord "from" then
      let s ← stringLiteral
      importAttributes
      pure (some s)
    else
      items.forM checkExported
      pure none
  endStatement
  return .exportNamed typeOnly source (items.map fun i => (i.newName.getD i.source).text) []

/-- `export *`, after the star. -/
def exportAllRest (typeOnly : Bool) : Parser Node := do
  let newName ← if ← eatWord "as" then pure (some (← moduleName).text) else pure none
  expectWord "from"
  let source ← stringLiteral
  importAttributes
  endStatement
  return .exportAll typeOnly source newName

/-- What is exported by default, after the word `default`. -/
def exportDefault (r : Rules) (before : List Node) : Parser Node := do
  let ds := before ++ (← decorators r)
  let types ← typesOn
  let next ← peek
  if ← isAtWord "class" then return .exportDefault (← r (.classRest [] ds))
  faultIf (!ds.isEmpty && !(← isAtWord "abstract"))
  if types && (← isAtWord "abstract") && next.isWord "class" && !next.afterNewline then
    advance
    return .exportDefault (← r (.classRest ["abstract"] ds))
  if types && (← isAtWord "interface") && next.isName && !next.afterNewline then
    return .exportDefault (← interfaceDeclaration r)
  if ← isAtWord "function" then
    return .exportDefault (← functionDeclaration r .defaultExport false .list)
  if ← atAsyncFunction then
    advance
    return .exportDefault (← functionDeclaration r .defaultExport true .list)
  let e ← r (.assignment true)
  endStatement
  return .exportDefault e

/-- The names that a declaration binds and thereby exports. -/
def Node.declaredNames : Node → List String
  | .node .statement ds => ds.flatMap Node.boundNames
  | .node .classForm ps => ps.flatMap Node.boundNames
  | _ => []

def exportDeclarationOf (r : Rules) (ds : List Node) : Parser Node := do
  let d ← declaration r ds
  return .exportNamed false none d.declaredNames [d]

/-- An export after the word `export`, with the decorators before it. -/
def exportDeclaration (r : Rules) (before : List Node) : Parser Node := do
  let ds := before ++ (← decorators r)
  let types ← typesOn
  let t ← token
  let next ← peek
  match t.kind with
  | .mark .star =>
    faultIf (!ds.isEmpty)
    advance
    exportAllRest false
  | .mark .openBrace =>
    faultIf (!ds.isEmpty)
    exportItems false
  | .mark .assign =>
    if !types then failure
    advance
    let e ← r .expression
    endStatement
    return .node .statement [e]
  | .word =>
    if t.text == "default" then
      advance
      exportDefault r ds
    else if types && t.text == "import" then
      advance
      let typeOnly := (← isAtWord "type") && (← peek).isName && !(← peek).isWord "from"
      if typeOnly then advance
      discard bindingName
      return .exportNamed false none [] [← importEquals]
    else if types && t.text == "as" && next.isWord "namespace" then
      advance
      advance
      discard bindingName
      endStatement
      return .node .statement []
    else if types && t.text == "type" && next.isMark .openBrace then
      advance
      exportItems true
    else if types && t.text == "type" && next.isMark .star then
      advance
      advance
      exportAllRest true
    else exportDeclarationOf r ds
  | _ => failure

end BundleGraph.Script
