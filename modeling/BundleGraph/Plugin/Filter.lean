import BundleGraph.Pattern.Basic

/-!
# Filters

A handler of a plugin is asked only about requests that its filter accepts: a pattern has
to be found in the path, and the namespace has to be the one asked for.
-/

namespace BundleGraph

/-- What a plugin says about the requests it wants. -/
structure FilterOptions where
  pattern : String
  /-- The namespace; if none is given, the kind of handler decides. -/
  space : Option String := none
  deriving DecidableEq, Repr

/-- A filter whose pattern is compiled. -/
structure Filter where
  pattern : Pattern
  space : Option String

namespace Filter

/-- The filter that options describe, if their pattern is one. -/
def compile? (o : FilterOptions) : Option Filter :=
  (Pattern.compile? o.pattern).map fun p => ⟨p, o.space⟩

/-- Whether a namespace is right: the filter's own, or else the one given, or else any. -/
def acceptsSpace (f : Filter) (space : String) (otherwise : Option String) : Bool :=
  match f.space.or otherwise with
  | some wanted => wanted == space
  | none => true

/-- Whether a path in a namespace is accepted. -/
def accepts (f : Filter) (path space : String) (otherwise : Option String) : Bool :=
  f.acceptsSpace space otherwise && f.pattern.isFoundIn path

end Filter

end BundleGraph
