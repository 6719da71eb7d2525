import BundleGraph.Build.Report
import BundleGraph.Json.Form.Graph
import BundleGraph.Json.Form.Settings

/-!
# JSON forms of what a build gives
-/

namespace BundleGraph

open JsonForm

instance : JsonForm BuildStats where
  toJson s := .ofFields [("modules", toJson s.modules),
    ("resolve_requests", toJson s.resolveRequests), ("resolves", toJson s.resolves),
    ("loads", toJson s.loads)]
  ofJson? v :=
    match slots ["modules", "resolve_requests", "resolves", "loads"] v with
    | some [modules, requests, resolves, loads] => do
      return {
        modules := ← requiredField modules
        resolveRequests := ← requiredField requests
        resolves := ← requiredField resolves
        loads := ← requiredField loads }
    | _ => none

end BundleGraph
