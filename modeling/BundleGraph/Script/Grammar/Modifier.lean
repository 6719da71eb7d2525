import BundleGraph.Script.Cursor

/-!
# Modifiers and names of members

Words such as `static` or `readonly` are modifiers only if something they can modify
follows; otherwise they are names.  The names of the members of objects and classes are
read here as well.
-/

namespace BundleGraph.Script

open BundleGraph.Script.Parser

def modifierWords : List String :=
  ["abstract", "accessor", "async", "const", "declare", "default", "export", "in", "out",
    "override", "private", "protected", "public", "readonly", "static"]

/-- The modifiers of which a member may have one. -/
def accessWords : List String :=
  ["public", "private", "protected"]

def Token.isModifier (t : Token) : Bool :=
  t.isOneOf modifierWords

/-- Whether the token can start what a modifier modifies. -/
def canFollowModifier : Parser Bool := do
  let t ← token
  return t.kind == .privateName || t.isMark .openBracket || t.isMark .openBrace ||
    t.isMark .star || t.isMark .ellipsis || t.isAnyWord || t.kind == .string || t.isNumber

/-- Whether `class`, `function` and their like follow the word `default`. -/
def defaultPrecedesDeclaration : Parser Bool := do
  let t ← token
  if t.isOneOf ["class", "function", "interface", "abstract", "async"] || t.isMark .at then
    return true
  else return false

/-- Reads the token as a modifier and says whether it is one there. -/
def takeModifier : Parser Bool := do
  let t ← token
  match t.text with
  | "const" =>
    advanceName
    isAtWord "enum"
  | "default" =>
    advanceName
    defaultPrecedesDeclaration
  | "static" => crossing
  | "accessor" => crossing
  | "get" => crossing
  | "set" => crossing
  | _ =>
    advanceName
    return (← canFollowModifier) && !(← onNewLine)
where
  /-- These modifiers may be followed by a new line. -/
  crossing : Parser Bool := do
    advanceName
    canFollowModifier

/-- Reads a word if it is a modifier where it stands. -/
def eatModifier (w : String) : Parser Bool := do
  if (← isAtWord w) && (← lookahead takeModifier) then
    advance
    return true
  else return false

/-- Whether a brace follows the word `static`. -/
def atStaticBlock : Parser Bool := do
  return (← isAtWord "static") && (← peek).isMark .openBrace

/-- Reads the modifiers in front of a declaration or member. -/
def modifiers (allowConst stopAtBlock : Bool) : Parser (List String) :=
  iterate [] fun done => do
    let t ← token
    if !t.isModifier || (t.text == "const" && !allowConst) ||
        (stopAtBlock && (← atStaticBlock)) || (t.text == "static" && done.contains "static") then
      return .inr done.reverse
    let follows ← if t.text == "const" then lookahead constFollows else lookahead takeModifier
    if follows then
      advance
      return .inl (t.text :: done)
    else return .inr done.reverse
where
  /-- Whether `const` stands as a modifier. -/
  constFollows : Parser Bool := do
    advanceName
    return (← canFollowModifier) && !(← onNewLine)

/-- Faults modifiers outside a given list, a modifier given twice and more than one word
about access. -/
def checkModifiers (allowed found : List String) : Parser Unit := do
  faultIf (found.any fun m => !allowed.contains m || found.count m > 1)
  faultIf ((found.filter accessWords.contains).length > 1)

/-- The name of a member, and whether it is computed. -/
structure MemberName where
  /-- The written name, if it is a word or a string. -/
  text : Option String := none
  /-- Whether the name is a plain word. -/
  word : Bool := false
  computed : Bool := false
  /-- Whether the name is private. -/
  hidden : Bool := false
  key : Node

/-- Reads the name of a member of an object or class. -/
def memberName (r : Rules) (allowPrivate : Bool) : Parser MemberName := do
  let t ← token
  match t.kind with
  | .word =>
    advanceName
    return { text := some t.text, word := true, key := .leaf }
  | .string =>
    advanceName
    return { text := some t.text, key := .string t.text }
  | .number => advanceName; return { key := .leaf }
  | .bigNumber => advanceName; return { key := .leaf }
  | .privateName =>
    if allowPrivate then
      advanceName
      return { text := some t.text, hidden := true, key := .leaf }
    else failure
  | .mark .openBracket =>
    advance
    let key ← withIn (r (.assignment true))
    expect .closeBracket
    return { computed := true, key }
  | _ => failure

end BundleGraph.Script
