import BundleGraph.Plugin.Setup
import BundleGraph.Settings.Loaders

/-!
# Options of a build

What a build is made with: settings that hold together, and plugins.

## Main definitions

* `BuildOptions.ofSettings` — options from settings, which are checked.
* `BuildOptions.validate` — the checks on options however they were made.
-/

namespace BundleGraph

/-- What a build is made with. -/
structure BuildOptions where
  entries : List String
  /-- Whether imports are followed. -/
  bundle : Bool := true
  outfile : Option Path := none
  outdir : Option Path := none
  format : OutputFormat := .esm
  platform : Platform := .browser
  /-- Specifiers that stay outside the build. -/
  external : List String := []
  /-- Kinds by extension, in the order of the extensions. -/
  loaders : List (String × ContentKind) := []
  plugins : List Setup := []
  cwd : Option Path := none
  /-- The number of modules the build may have. -/
  maxModules : Nat := defaultMaxModules

/-- The kind of a named loader for an extension. -/
def loaderKind (extension kind : String) : Except BuildError ContentKind :=
  match ContentKind.ofName? kind with
  | some k => .ok k
  | none => .error (.options (.unknownLoader kind extension))

/-- The kinds of named loaders; the first name that is no kind is the error. -/
def loaderKinds : List (String × String) → Except BuildError (List (String × ContentKind))
  | [] => .ok []
  | (ext, kind) :: r =>
    match loaderKind ext kind with
    | .error e => .error e
    | .ok k => (loaderKinds r).map ((ext, k) :: ·)

namespace BuildOptions

/-- Options from settings, which are checked first. -/
def ofSettings (s : Settings) : Except BuildError BuildOptions :=
  match s.validate with
  | .error e => .error (.settings e)
  | .ok () =>
    (loaderKinds (normalLoaders s.loaders)).map fun loaders =>
      { entries := s.entries
        bundle := s.bundle
        outfile := s.outfile
        outdir := s.outdir
        format := s.format
        platform := s.platform
        external := s.external
        loaders
        cwd := s.cwd
        maxModules := s.maxModules }

/-- Lists one more specifier as external, unless it is listed. -/
def addExternal (o : BuildOptions) (specifier : String) : BuildOptions :=
  if o.external.contains specifier then o else { o with external := o.external ++ [specifier] }

def addExternals (o : BuildOptions) (specifiers : List String) : BuildOptions :=
  specifiers.foldl addExternal o

/-- Sets the kind of an extension, which may be written with dots and in capital letters. -/
def setLoader (o : BuildOptions) (extension : String) (kind : ContentKind) : BuildOptions :=
  { o with loaders := Json.insert (normalExtension extension) kind o.loaders }

/-- Checks options; the first fault in a fixed order is the error. -/
def validate (o : BuildOptions) : Except BuildError Unit :=
  if o.entries.isEmpty then .error (.options .noEntries)
  else if o.entries.any Text.isBlankText then .error (.options .blankEntry)
  else if o.outdir.isSome && o.outfile.isSome then .error (.options .twoOutputs)
  else if o.outfile.isSome && decide (1 < o.entries.length) then
    .error (.options .oneFileForMany)
  else if o.maxModules = 0 then .error (.options .noRoom)
  else .ok ()

end BuildOptions

end BundleGraph
