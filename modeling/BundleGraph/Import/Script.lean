import BundleGraph.Import.Basic
import BundleGraph.Script.Parse

/-!
# Imports of scripts

The imports of a script are read off its syntax tree, in the order of the text.  What is
only about types is passed over: it is gone before modules are put together.

## Main definitions

* `Script.imports` — the imports of a tree.
* `Script.allImports` — the imports of a list of trees.
-/

namespace BundleGraph.Script

/-- The import that a call makes: `require` with one string and nothing else. -/
def requireCall : Node → List Node → List ImportRecord
  | .name "require", [.string s] => [⟨s, .require⟩]
  | _, _ => []

/-- The import that `import(…)` makes when its source is a string. -/
def dynamicImport : Node → List ImportRecord
  | .string s => [⟨s, .dynamic⟩]
  | _ => []

/-- The import that an export with a source makes. -/
def reExport (typeOnly : Bool) (source : Option String) : List ImportRecord :=
  match typeOnly, source with
  | false, some s => [⟨s, .reExport⟩]
  | _, _ => []

mutual

/-- The imports of a tree.  `export * from` counts even when it is about types only. -/
def imports : Node → List ImportRecord
  | .name _ => []
  | .string _ => []
  | .importDecl typeOnly source => if typeOnly then [] else [⟨source, .static⟩]
  | .exportNamed typeOnly source _ declaration =>
    reExport typeOnly source ++ allImports declaration
  | .exportAll _ source _ => [⟨source, .reExport⟩]
  | .exportDefault value => imports value
  | .importCall source options => dynamicImport source ++ imports source ++ allImports options
  | .call callee typeArguments arguments =>
    requireCall callee arguments ++ imports callee ++ allImports typeArguments ++
      allImports arguments
  | .node _ parts => allImports parts

def allImports : List Node → List ImportRecord
  | [] => []
  | n :: ns => imports n ++ allImports ns

end

end BundleGraph.Script
