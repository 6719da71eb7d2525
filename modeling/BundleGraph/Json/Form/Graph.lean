import BundleGraph.Graph.Basic
import BundleGraph.Json.Form.Basic

/-!
# JSON forms of the graph

The forms of identities, kinds, imports, modules and counts.
-/

namespace BundleGraph

open JsonForm

instance : JsonForm ModuleId where
  toJson id := .ofFields [("path", toJson id.path), ("namespace", toJson id.space)]
  ofJson? v :=
    match slots ["path", "namespace"] v with
    | some [path, space] => do return ⟨← requiredField path, ← requiredField space⟩
    | _ => none

instance : JsonForm ContentKind where
  toJson k := .str k.name
  ofJson? := ofName? fun s => ContentKind.all.find? fun k => k.name == s

instance : JsonForm ImportKind where
  toJson k := .str k.name
  ofJson? := ofName? ImportKind.ofName?

instance : JsonForm ImportRecord where
  toJson r := .ofFields [("specifier", toJson r.specifier), ("kind", toJson r.kind)]
  ofJson? v :=
    match slots ["specifier", "kind"] v with
    | some [specifier, kind] => do return ⟨← requiredField specifier, ← requiredField kind⟩
    | _ => none

instance : JsonForm Dependency where
  toJson d := .ofFields [("specifier", toJson d.specifier), ("kind", toJson d.kind),
    ("resolved", toJson d.resolved)]
  ofJson? v :=
    match slots ["specifier", "kind", "resolved"] v with
    | some [specifier, kind, resolved] => do
      return ⟨← requiredField specifier, ← requiredField kind, ← requiredField resolved⟩
    | _ => none

instance : JsonForm Module where
  toJson m := .ofFields [("id", toJson m.id), ("contents", toJson m.contents),
    ("kind", toJson m.kind), ("dependencies", toJson m.dependencies),
    ("is_entry", toJson m.isEntry), ("is_external", toJson m.isExternal),
    ("loaded_by", .ofOption toJson m.loadedBy), ("plugin_data", .ofOption toJson m.pluginData)]
  ofJson? v :=
    match slots ["id", "contents", "kind", "dependencies", "is_entry", "is_external", "loaded_by",
        "plugin_data"] v with
    | some [id, contents, kind, dependencies, isEntry, isExternal, loadedBy, pluginData] => do
      return {
        id := ← requiredField id
        contents := ← requiredField contents
        kind := ← requiredField kind
        dependencies := ← requiredField dependencies
        isEntry := ← requiredField isEntry
        isExternal := ← requiredField isExternal
        loadedBy := ← optionalField loadedBy
        pluginData := ← optionalField pluginData }
    | _ => none

instance : JsonForm GraphStatistics where
  toJson s := .ofFields [("module_count", toJson s.moduleCount),
    ("external_count", toJson s.externalCount), ("entry_count", toJson s.entryCount),
    ("edge_count", toJson s.edgeCount)]
  ofJson? v :=
    match slots ["module_count", "external_count", "entry_count", "edge_count"] v with
    | some [modules, externals, entries, edges] => do
      return {
        moduleCount := ← requiredField modules
        externalCount := ← requiredField externals
        entryCount := ← requiredField entries
        edgeCount := ← requiredField edges }
    | _ => none

end BundleGraph
