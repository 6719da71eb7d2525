import BundleGraph.Json.Basic
import BundleGraph.Settings.Basic
import BundleGraph.Text.Ascii

/-!
# Loaders by extension

A map from extensions to kinds may spell an extension with dots before it and in capital
letters.  The normal form has neither; of two spellings of one extension the later in the
order of the map counts.
-/

namespace BundleGraph

/-- An extension without the dots before it and in small letters. -/
def normalExtension (ext : String) : String :=
  Text.asciiLower (Text.dropDots ext)

/-- Loaders with every extension in its normal form, in the order of the extensions. -/
def normalLoaders (loaders : List (String × α)) : List (String × α) :=
  Json.sortFields (loaders.map fun l => (normalExtension l.1, l.2))

end BundleGraph
