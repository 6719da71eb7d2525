import BundleGraph.Settings.Basic
import BundleGraph.Text.Ascii
import BundleGraph.Text.Blank

/-!
# Checks on settings

The checks need no file.  They are made in a fixed order, and the first that fails gives
the error.
-/

namespace BundleGraph

/-- What is wrong with settings, or kept them from being loaded. -/
inductive SettingsError where
  | notFound (directory : Path)
  | unreadable
  | invalidValue (field hint : String)
  | noEntries
  | conflict (reason : String)
  | system (reason : String)
  deriving DecidableEq, Repr

def SettingsError.message : SettingsError → String
  | .notFound directory => s!"config not found in {directory.text}"
  | .unreadable => "failed to load configuration"
  | .invalidValue field hint => s!"invalid config value for '{field}': {hint}"
  | .noEntries => "no entries specified"
  | .conflict reason => s!"conflicting options: {reason}"
  | .system reason => s!"I/O error: {reason}"

namespace Settings

/-- Checks settings; the first fault in a fixed order is the error. -/
def validate (s : Settings) : Except SettingsError Unit :=
  if s.entries.isEmpty then .error .noEntries
  else if s.entries.any Text.isBlankText then
    .error (.invalidValue "entries" "entry specifiers cannot be empty")
  else if s.outfile.isSome && s.outdir.isSome then
    .error (.conflict "'outfile' and 'outdir' cannot both be set")
  else if s.outfile.isSome && decide (1 < s.entries.length) then
    .error (.conflict "'outfile' requires a single entry; use 'outdir' for multiple entries")
  else if s.external.any Text.isBlankText then
    .error (.invalidValue "external" "remove empty strings from the 'external' array")
  else if s.loaders.any fun l => (Text.dropDots l.1).isEmpty then
    .error (.invalidValue "loaders" "loader extensions cannot be empty")
  else if s.maxModules = 0 then
    .error (.invalidValue "max_modules" "must be greater than zero")
  else .ok ()

end Settings

end BundleGraph
