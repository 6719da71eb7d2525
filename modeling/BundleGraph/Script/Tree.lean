/-!
# Syntax trees of scripts

What a tree keeps is what import discovery and the grammar's own checks ask of it: the
declarations that name other modules, calls and dynamic imports, names and strings.
Every other construct is a `node` that keeps its form and its parts in source order, so
that a walk over a tree is one recursion whatever the construct.
-/

namespace BundleGraph.Script

/-- The constructs that the grammar tells apart once they are read. -/
inductive Form where
  /-- A literal, `this`, a keyword: nothing below it. -/
  | leaf
  /-- An expression in parentheses. -/
  | group
  | sequence
  | array
  /-- A missing element of an array. -/
  | hole
  /-- Marks that a comma follows the last element. -/
  | finalComma
  | object
  /-- A property with a key and a value. -/
  | property
  /-- A property that is only a name; its part is that name. -/
  | shorthand
  /-- A property `name = value`, which is right only in a pattern. -/
  | shorthandDefault
  /-- A method, getter or setter. -/
  | method
  | spread
  /-- Access to a part of a value: by name, by an index, by a private name. -/
  | member
  /-- A chain in which an optional access occurs. -/
  | chain
  | superValue
  | construct
  | template
  | tagged
  /-- `target = value`. -/
  | assign
  /-- An assignment by another operator. -/
  | operatorAssign
  | update
  | unary
  | await
  | yield
  | binary
  /-- `a && b` or `a || b`. -/
  | logical
  /-- `a ?? b`. -/
  | orElse
  /-- `#name in value`. -/
  | privateIn
  | conditional
  | arrow
  /-- Type parameters, parameters, the type returned and the body, one part each. -/
  | function
  | parameters
  /-- `this` among parameters, with its type. -/
  | receiver
  | classForm
  /-- A cast or assertion of a type, or a value asserted to be there. -/
  | typed
  /-- A value with type arguments and no call. -/
  | instantiation
  | metaProperty
  | markup
  | markupEmpty
  /-- A name that a declaration binds; its part is that name. -/
  | binding
  | arrayPattern
  | objectPattern
  /-- A pattern with its type. -/
  | patternTyped
  /-- A pattern with a default. -/
  | patternDefault
  | rest
  | typePart
  | decorator
  | declarator
  | statement
  | block
  deriving DecidableEq, Repr

/-- A syntax tree. -/
inductive Node where
  | name (text : String)
  | string (value : String)
  /-- `import … from "source"` -/
  | importDecl (typeOnly : Bool) (source : String)
  /-- `export { … }`, with a source or not, or `export` before a declaration; `names` are
  the exported names. -/
  | exportNamed (typeOnly : Bool) (source : Option String) (names : List String)
      (declaration : List Node)
  /-- `export * from "source"`, with a name or not. -/
  | exportAll (typeOnly : Bool) (source : String) (newName : Option String)
  | exportDefault (value : Node)
  /-- `import(source, options)` -/
  | importCall (source : Node) (options : List Node)
  | call (callee : Node) (typeArguments arguments : List Node)
  | node (form : Form) (parts : List Node)
  deriving Repr

namespace Node

/-- A construct with nothing below it. -/
def leaf : Node := .node .leaf []

/-- The form of a tree; the trees with constructors of their own count as statements or leaves. -/
def form : Node → Form
  | .node f _ => f
  | .name _ => .leaf
  | .string _ => .leaf
  | .importCall _ _ => .leaf
  | .call _ _ _ => .leaf
  | _ => .statement

def is (f : Form) : Node → Bool
  | .node g _ => f = g
  | _ => false

/-- The parts of a construct without a constructor of its own. -/
def parts : Node → List Node
  | .node _ ps => ps
  | _ => []

def isName : Node → Bool
  | .name _ => true
  | _ => false

def isString : Node → Bool
  | .string _ => true
  | _ => false

/-- The tree below parentheses and type casts. -/
def inner : Node → Node
  | .node .group [e] => e.inner
  | .node .typed (e :: _) => e.inner
  | n => n

def boundNames : Node → List String
  | .node .binding [.name n] => [n]
  | .node .arrayPattern ps => below ps
  | .node .objectPattern ps => below ps
  | .node .declarator (p :: _) => p.boundNames
  | .node .patternDefault (p :: _) => p.boundNames
  | .node .patternTyped (p :: _) => p.boundNames
  | .node .rest [p] => p.boundNames
  | .node .property [_, p] => p.boundNames
  | _ => []
where
  /-- The names a list of patterns binds. -/
  below : List Node → List String
    | [] => []
    | p :: ps => p.boundNames ++ below ps

mutual

/-- Whether a default stands in an object that turned out not to be a pattern. -/
def hasLooseDefault : Node → Bool
  | .node f ps => f = .shorthandDefault || anyLooseDefault ps
  | .exportNamed _ _ _ ds => anyLooseDefault ds
  | .exportDefault v => v.hasLooseDefault
  | .importCall s os => s.hasLooseDefault || anyLooseDefault os
  | .call c ts as => c.hasLooseDefault || anyLooseDefault ts || anyLooseDefault as
  | _ => false

/-- The same for a list of trees. -/
def anyLooseDefault : List Node → Bool
  | [] => false
  | n :: ns => n.hasLooseDefault || anyLooseDefault ns

end

mutual

def exportedNames : Node → List String
  | .exportNamed _ _ names ds => names ++ allExportedNames ds
  | .exportAll _ _ (some newName) => [newName]
  | .exportDefault v => "default" :: v.exportedNames
  | .node _ ps => allExportedNames ps
  | _ => []

/-- The same for a list of trees. -/
def allExportedNames : List Node → List String
  | [] => []
  | n :: ns => n.exportedNames ++ allExportedNames ns

end

end Node

end BundleGraph.Script
