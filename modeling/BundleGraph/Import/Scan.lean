import BundleGraph.ContentKind
import BundleGraph.Import.Script
import BundleGraph.Import.Stylesheet

/-!
# The imports of a module

Scripts import with statements and calls, stylesheets with rules, and other contents not at
all.  A specifier counts once, at its first place and with the kind it has there.

## Main definitions

* `scanImports` — the imports of contents of some kind; none if they cannot be read.
-/

namespace BundleGraph

/-- The dialect a kind of script is written in. -/
def dialectOf (kind : ContentKind) : Script.Dialect where
  types := kind == .ts || kind == .tsx
  markup := kind == .jsx || kind == .tsx

/-- Records without those whose specifier occurs before, or is among `seen`. -/
def dropRepeats (seen : List String) : List ImportRecord → List ImportRecord
  | [] => []
  | r :: rs =>
    if seen.contains r.specifier then dropRepeats seen rs
    else r :: dropRepeats (r.specifier :: seen) rs

/-- All imports that contents spell out, in the order of the text. -/
def rawImports? (contents : String) (kind : ContentKind) : Option (List ImportRecord) :=
  if kind.isScript then (Script.parse? (dialectOf kind) contents).map Script.allImports
  else if kind = .css then some (Stylesheet.imports contents)
  else some []

/-- The imports of contents, each specifier once; none if a script cannot be parsed. -/
def scanImports? (contents : String) (kind : ContentKind) : Option (List ImportRecord) :=
  (rawImports? contents kind).map (dropRepeats [])

end BundleGraph
