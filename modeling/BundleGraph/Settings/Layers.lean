import BundleGraph.FileSystem.Basic
import BundleGraph.Json.Form.Settings
import BundleGraph.Json.Merge
import BundleGraph.Settings.Validation
import BundleGraph.Settings.Variable
import BundleGraph.Toml.Reader

/-!
# Settings in layers

Settings come from their defaults, a file and environment variables, each laid over what is
before it.  Types are checked at the end, so a value that a later layer replaces may be of
any type.

## Main definitions

* `Settings.find?` — the file of a directory.
* `Settings.load` — the settings of a directory with a file.
* `Settings.loadOrDefault` — the same, with or without a file.
-/

namespace BundleGraph.Settings

def fileName : String := "fob.toml"

/-- What the names of variables with settings start with. -/
def variablePrefix : String := "FOB_"

/-- Variables of the environment, by name. -/
abbrev Environment := List (String × String)

/-- The file of a directory, if there is one. -/
def find? (fs : FileSystem) (directory : Path) : Option Path :=
  let path := directory.join ⟨fileName⟩
  if fs.isFile path then some path else none

/-- The layer of a file; none if it cannot be read. -/
def fileLayer (fs : FileSystem) (path : Path) : Option Json :=
  match fs.readText path with
  | .ok text => Toml.parse? text
  | .error _ => none

/-- One variable laid over a layer, if its name is one of a setting. -/
def overlay (layer : Json) (entry : String × String) : Json :=
  match Variable.keys? variablePrefix entry.1 with
  | some keys => layer.merge (Variable.nest (Variable.valueOf entry.2) keys)
  | none => layer

def variableLayer (env : Environment) : Json :=
  env.foldl overlay (.obj [])

def defaultLayer : Json :=
  toJson ({} : Settings)

/-- The settings of layers, each laid over those before it. -/
def ofLayers? (layers : List Json) : Option Settings :=
  ofJson? (layers.foldl Json.merge defaultLayer)

/-- The settings of a directory, with or without a file. -/
def loadOrDefault (fs : FileSystem) (env : Environment) (directory : Path) :
    Except SettingsError Settings :=
  let file :=
    match find? fs directory with
    | some path => fileLayer fs path
    | none => some (.obj [])
  match file.bind fun layer => ofLayers? [layer, variableLayer env] with
  | some s => .ok s
  | none => .error .unreadable

/-- The settings of a directory with a file. -/
def load (fs : FileSystem) (env : Environment) (directory : Path) :
    Except SettingsError Settings :=
  match find? fs directory with
  | some _ => loadOrDefault fs env directory
  | none => .error (.notFound directory)

/-- The settings of the working directory. -/
def discover (fs : FileSystem) (env : Environment) : Except SettingsError Settings :=
  match fs.directory with
  | .ok directory => load fs env directory
  | .error e => .error (.system e.message)

end BundleGraph.Settings
