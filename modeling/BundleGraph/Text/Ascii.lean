/-!
# Letters of ASCII

Extensions of files and the names of content kinds are compared with the case of the
ASCII letters ignored; every other character counts as it is.
-/

namespace BundleGraph.Text

/-- A text with the capital letters of ASCII made small. -/
def asciiLower (s : String) : String :=
  String.ofList (s.toList.map Char.toLower)

/-- Whether two texts differ at most in the case of ASCII letters. -/
def sameIgnoringCase (s t : String) : Bool :=
  asciiLower s == asciiLower t

def dropDots (s : String) : String :=
  String.ofList (s.toList.dropWhile (· == '.'))

end BundleGraph.Text
