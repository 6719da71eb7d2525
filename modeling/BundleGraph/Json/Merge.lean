import BundleGraph.Json.Basic

/-!
# Merging values

A value laid over another: objects are merged entry by entry, and anything else is
replaced.
-/

namespace BundleGraph.Json

mutual

/-- The second value laid over the first. -/
def merge : Json → Json → Json
  | .obj fields, .obj upper => .obj (mergeFields fields upper)
  | _, v => v

/-- Entries laid over others, each under its key. -/
def mergeFields (fields : List (String × Json)) : List (String × Json) → List (String × Json)
  | [] => fields
  | (k, v) :: upper =>
    let merged :=
      match lookup k fields with
      | some old => merge old v
      | none => v
    mergeFields (insert k merged fields) upper

end

end BundleGraph.Json
