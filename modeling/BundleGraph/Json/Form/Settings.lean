import BundleGraph.Json.Form.Basic
import BundleGraph.Settings.Basic

/-!
# JSON forms of settings

A setting that is not given has its default; one that has none is left out of the form.
-/

namespace BundleGraph

open JsonForm

instance : JsonForm OutputFormat where
  toJson f := .str f.name
  ofJson? := ofName? OutputFormat.ofName?

instance : JsonForm Platform where
  toJson p := .str p.name
  ofJson? := ofName? Platform.ofName?

namespace Settings

def names : List String :=
  ["entries", "bundle", "outfile", "outdir", "format", "platform", "external", "loaders", "cwd",
    "max_modules", "log_level"]

end Settings

instance : JsonForm Settings where
  toJson s := .ofFields ([("entries", toJson s.entries), ("bundle", toJson s.bundle)] ++
    entryOf "outfile" s.outfile ++ entryOf "outdir" s.outdir ++
    [("format", toJson s.format), ("platform", toJson s.platform),
      ("external", toJson s.external), ("loaders", toJson (Table.mk s.loaders))] ++
    entryOf "cwd" s.cwd ++ [("max_modules", toJson s.maxModules)] ++
    entryOf "log_level" s.logLevel)
  ofJson? v :=
    match slots Settings.names v with
    | some [entries, bundle, outfile, outdir, format, platform, external, loaders, cwd, maxModules,
        logLevel] => do
      return {
        entries := ← defaultedField [] entries
        bundle := ← defaultedField true bundle
        outfile := ← omissibleField outfile
        outdir := ← omissibleField outdir
        format := ← defaultedField .esm format
        platform := ← defaultedField .browser platform
        external := ← defaultedField [] external
        loaders := (← defaultedField (Table.mk []) loaders).entries
        cwd := ← omissibleField cwd
        maxModules := ← defaultedField defaultMaxModules maxModules
        logLevel := ← omissibleField logLevel }
    | _ => none

end BundleGraph
