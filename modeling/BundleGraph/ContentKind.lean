import BundleGraph.Text.Ascii

/-!
# Content kinds

How the contents of a module are read.

## Main definitions

* `ContentKind.ofName?` — the kind of a name, with the case of letters ignored.
* `ContentKind.ofExtension?` — the kind files of an extension have unless told otherwise.
* `ContentKind.isScript` — whether the contents can import with statements.
-/

namespace BundleGraph

/-- How the contents of a module are read. -/
inductive ContentKind where
  | js | jsx | ts | tsx
  | json
  | css
  /-- The text itself is the value of the module. -/
  | text
  | base64
  | dataUrl
  | binary
  /-- A file that is only copied. -/
  | file
  deriving DecidableEq, Repr

namespace ContentKind

instance : Inhabited ContentKind := ⟨.js⟩

/-- All kinds, in the order in which they are listed for a reader. -/
def all : List ContentKind :=
  [.js, .jsx, .ts, .tsx, .json, .css, .text, .base64, .dataUrl, .binary, .file]

def name : ContentKind → String
  | .js => "js"
  | .jsx => "jsx"
  | .ts => "ts"
  | .tsx => "tsx"
  | .json => "json"
  | .css => "css"
  | .text => "text"
  | .base64 => "base64"
  | .dataUrl => "dataurl"
  | .binary => "binary"
  | .file => "file"

/-- The kind of a name, with the case of ASCII letters ignored. -/
def ofName? (s : String) : Option ContentKind :=
  all.find? fun k => Text.sameIgnoringCase k.name s

/-- The kind that files of an extension have unless told otherwise. -/
def ofExtension? (ext : String) : Option ContentKind :=
  match Text.asciiLower ext with
  | "js" | "mjs" | "cjs" => some .js
  | "jsx" => some .jsx
  | "ts" | "mts" | "cts" => some .ts
  | "tsx" => some .tsx
  | "json" => some .json
  | "css" => some .css
  | "txt" => some .text
  | _ => none

/-- Whether the contents can import other modules with statements. -/
def isScript : ContentKind → Bool
  | .js | .jsx | .ts | .tsx => true
  | _ => false

/-- Every kind is listed. -/
theorem mem_all (k : ContentKind) : k ∈ all := by
  cases k <;> decide

/-- A kind is read back from its name. -/
theorem ofName?_name (k : ContentKind) : ofName? k.name = some k := by
  cases k <;> decide +kernel

/-- The text for a name that is no kind. -/
def unknownMessage (s : String) : String :=
  s!"Invalid content kind: {s}"

end ContentKind

end BundleGraph
