import BundleGraph.Error
import BundleGraph.Settings.Basic
import BundleGraph.Text.Lowercase

/-!
# Log levels

How much of a build's log is shown.  A level is named in any case of letters, and some
levels have two names.
-/

namespace BundleGraph

/-- How much of the log is shown. -/
inductive LogLevel where
  | silent
  | error
  | warn
  | info
  | debug
  | trace
  deriving DecidableEq, Repr

namespace LogLevel

def name : LogLevel → String
  | .silent => "off"
  | .error => "error"
  | .warn => "warn"
  | .info => "info"
  | .debug => "debug"
  | .trace => "trace"

/-- The level that a text in small letters names. -/
def ofLower? : String → Option LogLevel
  | "silent" | "off" => some .silent
  | "error" => some .error
  | "warn" | "warning" => some .warn
  | "info" => some .info
  | "debug" => some .debug
  | "trace" => some .trace
  | _ => none

/-- The level that a text names; the error holds the text in small letters. -/
def ofText (s : String) : Except String LogLevel :=
  let lower := Text.lowercase s
  match ofLower? lower with
  | some l => .ok l
  | none => .error lower

/-- The level of settings; details are left out unless told otherwise. -/
def ofSettings (s : Settings) : Except BuildError LogLevel :=
  match s.logLevel with
  | none => .ok .info
  | some text =>
    match ofText text with
    | .ok l => .ok l
    | .error lower => .error (.options (.invalidLogLevel lower))

/-- The text for a name that is no level. -/
def unknownMessage (lower : String) : String :=
  (OptionsFault.invalidLogLevel lower).message

end LogLevel

end BundleGraph
