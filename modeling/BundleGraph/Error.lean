import BundleGraph.FileSystem.Basic
import BundleGraph.Graph.Basic
import BundleGraph.Plugin.Hook
import BundleGraph.Settings.Validation

/-!
# Errors of a build

Each way in which a build can fail, with a text for a person, a code for a program and,
for most, an advice.
-/

namespace BundleGraph

/-- Why a module could not be loaded. -/
inductive LoadFailure where
  | fileMissing
  /-- The contents are no script. -/
  | unparsable (path : String)
  | other (reason : String)
  deriving DecidableEq, Repr

def LoadFailure.message : LoadFailure → String
  | .fileMissing => "file does not exist"
  | .unparsable path => s!"Failed to parse '{path}'"
  | .other reason => reason

/-- How a plugin misused its setup. -/
inductive SetupMistake where
  | renamed (name : String)
  | blankName
  | resolverBeforeName
  | loaderBeforeName
  | unnamed
  | other (reason : String)
  deriving DecidableEq, Repr

def SetupMistake.message : SetupMistake → String
  | .renamed name => s!"name is already set; cannot rename to '{name}'"
  | .blankName => "plugin name cannot be empty"
  | .resolverBeforeName => "set_name must be called before add_resolver"
  | .loaderBeforeName => "set_name must be called before add_loader"
  | .unnamed => "setup finished without calling set_name"
  | .other reason => reason

/-- What is wrong with the options of a build. -/
inductive OptionsFault where
  | noEntries
  | blankEntry
  | twoOutputs
  | oneFileForMany
  | noRoom
  | unknownLoader (kind extension : String)
  | invalidLogLevel (text : String)
  | other (reason : String)
  deriving DecidableEq, Repr

def OptionsFault.message : OptionsFault → String
  | .noEntries => "At least one entry point is required"
  | .blankEntry => "entry specifiers cannot be empty"
  | .twoOutputs => "outdir and outfile cannot both be specified"
  | .oneFileForMany => "outfile can only be used with a single entry point"
  | .noRoom => "max_modules must be greater than zero"
  | .unknownLoader kind extension =>
    let known := ", ".intercalate (ContentKind.all.map ContentKind.name)
    s!"unknown loader '{kind}' for extension '.{extension}' (expected one of: {known})"
  | .invalidLogLevel text => s!"Invalid log level: {text}"
  | .other reason => reason

/-- Why a plugin's hook failed. -/
inductive HookFailure where
  /-- The callback failed with a text. -/
  | callback (text : String)
  | emptyPath
  | identity (error : IdentityError)
  deriving DecidableEq, Repr

def HookFailure.message : HookFailure → String
  | .callback text => text
  | .emptyPath => "resolver matched with an empty path"
  | .identity e => e.message

/-- Why a build failed. -/
inductive BuildError where
  | setup (plugin : String) (mistake : SetupMistake)
  | invalidFilter (plugin pattern : String)
  | unresolved (specifier : String) (importer : Option String)
  | unrecognized (id : ModuleId)
  | load (id : ModuleId) (failure : LoadFailure)
  | hookFailed (plugin : String) (hook : HookKind) (failure : HookFailure)
  | file (error : FileError)
  | options (fault : OptionsFault)
  | tooManyModules (max : Nat)
  | graph (error : GraphError)
  | settings (error : SettingsError)
  | task (reason : String)
  deriving DecidableEq, Repr

namespace BuildError

/-- The text for a person. -/
def message : BuildError → String
  | .setup plugin mistake => s!"Plugin configuration error in {plugin}: {mistake.message}"
  | .invalidFilter plugin pattern => s!"Invalid filter '{pattern}' in plugin {plugin}"
  | .unresolved specifier none => s!"Could not resolve '{specifier}'"
  | .unresolved specifier (some importer) =>
    s!"Could not resolve '{specifier}' (imported by {importer})"
  | .unrecognized id => s!"No loader is configured for {id.display}"
  | .load id failure => s!"Failed to load {id.display}: {failure.message}"
  | .hookFailed plugin hook failure => s!"[{plugin}] {hook.name} hook failed: {failure.message}"
  | .file e => e.message
  | .options fault => s!"Invalid configuration: {fault.message}"
  | .tooManyModules max => s!"Too many modules: the build exceeds the limit of {max}"
  | .graph e => s!"Graph error: {e.message}"
  | .settings e => e.message
  | .task reason => s!"Build task failed: {reason}"

/-- The code for a program. -/
def code : BuildError → String
  | .setup _ _ => "CONFIG_ERROR"
  | .invalidFilter _ _ => "INVALID_FILTER"
  | .unresolved _ _ => "UNRESOLVED_IMPORT"
  | .unrecognized _ => "UNRECOGNIZED_CONTENT"
  | .load _ _ => "LOAD_FAILED"
  | .hookFailed _ _ _ => "PLUGIN_ERROR"
  | .file _ => "RUNTIME_ERROR"
  | .options _ => "INVALID_CONFIG"
  | .tooManyModules _ => "TOO_MANY_MODULES"
  | .graph _ => "FOUNDATION_ERROR"
  | .settings _ => "INVALID_CONFIG"
  | .task _ => "TASK_FAILED"

/-- Advice for a person, if there is any. -/
def help : BuildError → Option String
  | .setup _ _ => some "Call set_name exactly once, before add_resolver or add_loader."
  | .invalidFilter _ _ =>
    some ("Filters use Rust regex syntax; " ++
      "look-around and backreferences are not supported.")
  | .unresolved specifier _ =>
    some (s!"Add a resolver plugin for '{specifier}', list it in " ++ "\x60external\x60, " ++
      "or check that the file exists.")
  | .unrecognized id =>
    if id.isFile then
      some ("Add a loader plugin or map the extension with \x60loaders\x60 to load " ++
        s!"{id.path}.")
    else some s!"Register a loader with namespace '{id.space}' to load modules in that namespace."
  | .tooManyModules _ => some "Raise \x60max_modules\x60 if the graph is expected to be this large."
  | .options fault =>
    some s!"Check your configuration file for syntax errors.\nError: {fault.message}"
  | .load _ _ => none
  | .hookFailed _ _ _ => none
  | .file _ => none
  | .graph _ => none
  | .settings _ => none
  | .task _ => none

end BuildError

end BundleGraph
