import BundleGraph.Script.Tree

/-!
# Assignment targets

An assignment is recognised only after its left side was read as an expression.  The
functions here say which expressions are targets and rebuild array and object literals
as patterns; the rest of a pattern must be its last element, with no comma after it.
-/

namespace BundleGraph.Script.Node

/-- A target that holds one value: a name, an access, or one of these in parentheses or
under a type cast. -/
def toSimpleTarget : Node → Option Node
  | .name n => some (.name n)
  | .node .member ps => some (.node .member ps)
  | .node .group [e] => e.toSimpleTarget.map fun t => .node .group [t]
  | .node .typed (e :: ts) =>
    match e.inner with
    | .name _ => some (.node .typed (e :: ts))
    | .node .member _ => some (.node .typed (e :: ts))
    | _ => none
  | _ => none

mutual

/-- A target of a plain assignment: one value, or a pattern. -/
def toTarget : Node → Option Node
  | .node .array ps => (toElements ps).map (.node .arrayPattern)
  | .node .object ps => (toProperties ps).map (.node .objectPattern)
  | n => n.toSimpleTarget

/-- The elements of an array pattern. -/
def toElements : List Node → Option (List Node)
  | [] => some []
  | [.node .spread [e]] => e.toTarget.map fun t => [.node .rest [t]]
  | .node .spread _ :: _ => none
  | .node .finalComma _ :: _ => some []
  | .node .hole hs :: ps => (toElements ps).map (.node .hole hs :: ·)
  | .node .assign tv :: ps => (toElements ps).map (.node .patternDefault tv :: ·)
  | p :: ps =>
    match p.toTarget, toElements ps with
    | some t, some ts => some (t :: ts)
    | _, _ => none

/-- The properties of an object pattern. -/
def toProperties : List Node → Option (List Node)
  | [] => some []
  | [.node .spread [e]] => e.toTarget.map fun t => [.node .rest [t]]
  | .node .spread _ :: _ => none
  | .node .finalComma _ :: _ => some []
  | .node .shorthand ns :: ps => (toProperties ps).map (.node .shorthand ns :: ·)
  | .node .shorthandDefault nv :: ps => (toProperties ps).map (.node .patternDefault nv :: ·)
  | .node .property [k, .node .assign tv] :: ps =>
    (toProperties ps).map (.node .property [k, .node .patternDefault tv] :: ·)
  | .node .property [k, v] :: ps =>
    match v.toTarget, toProperties ps with
    | some t, some ts => some (.node .property [k, t] :: ts)
    | _, _ => none
  | _ => none

end

end BundleGraph.Script.Node
