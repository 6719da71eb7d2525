import BundleGraph.Plugin.Load
import BundleGraph.Plugin.Resolve
import BundleGraph.Settings.Loaders

/-!
# Resolving and loading files

What a build does when no plugin decides: relative and absolute specifiers lead to files,
and a file is loaded as the kind of its extension.

## Main definitions

* `isExternal` — whether a specifier is listed to stay outside.
* `FileResolver.resolve` — the default resolver.
* `FileLoader.load` — the default loader.
-/

namespace BundleGraph

/-- The extensions tried for a specifier without one, in order. -/
def probedExtensions : List String :=
  ["tsx", "ts", "jsx", "js", "mjs", "cjs", "css", "json"]

/-- Whether a specifier is in a list, or below a member of it. -/
def isExternal (specifier : String) (external : List String) : Bool :=
  external.any fun e =>
    specifier == e || (e.toList ++ ['/']).isPrefixOf specifier.toList

/-- Whether a specifier is read from the directory of its importer. -/
def isRelative (specifier : String) : Bool :=
  specifier == "." || specifier == ".." || ['.', '/'].isPrefixOf specifier.toList ||
    ['.', '.', '/'].isPrefixOf specifier.toList

/-- The resolver of files. -/
structure FileResolver where
  files : FileSystem
  /-- Specifiers that stay outside the build. -/
  external : List String

namespace FileResolver

/-- The path with each extension at the end of its last name, which is `name`. -/
def extended (candidate : Path) (name : String) : List Path :=
  probedExtensions.map fun ext => candidate.withFileName s!"{name}.{ext}"

/-- The files that stand for a directory. -/
def indexes (candidate : Path) : List Path :=
  probedExtensions.map fun ext => candidate.join ⟨s!"index.{ext}"⟩

/-- The file that a candidate leads to: itself, itself with an extension, or a file that
stands for it as a directory. -/
def probe? (r : FileResolver) (candidate : Path) : Option Path :=
  if r.files.isFile candidate then some candidate
  else
    match candidate.fileName? with
    | none => none
    | some name =>
      match (extended candidate name).find? r.files.isFile with
      | some path => some path
      | none =>
        if r.files.contains candidate then (indexes candidate).find? r.files.isFile else none

/-- The target for a candidate. -/
def targetOf? (r : FileResolver) (candidate : Path) : Option Target :=
  (r.probe? candidate).map fun path => { path := path.text }

/-- Resolves a request to a file, or to a listed external module. -/
def resolve (r : FileResolver) : DefaultResolver := fun q =>
  let specifier : Path := ⟨q.specifier⟩
  if isExternal q.specifier r.external then
    return some { path := q.specifier, external := true }
  else if specifier.isAbsolute then return r.targetOf? specifier.clean
  else if isRelative q.specifier then
    match q.directory with
    | some directory => return r.targetOf? (directory.join specifier).clean
    | none => do
      Work.tell (.directoryMissing q.specifier)
      return none
  else return none

end FileResolver

/-- The loader of files. -/
structure FileLoader where
  files : FileSystem
  /-- Kinds by extension, which count before the built-in ones. -/
  loaders : List (String × ContentKind)

namespace FileLoader

def kindOf? (l : FileLoader) (id : ModuleId) : Option ContentKind :=
  id.extension?.bind fun ext => (Json.lookup ext l.loaders).or (ContentKind.ofExtension? ext)

/-- The error of a file that cannot be read. -/
def failureOf (id : ModuleId) : FileError → BuildError
  | .notFound _ => .load id .fileMissing
  | e => .file e

/-- Loads a file whose extension is known. -/
def load (l : FileLoader) : DefaultLoader := fun id =>
  if id.isFile then
    match l.kindOf? id with
    | none => .ok none
    | some kind =>
      match l.files.readText id.asPath with
      | .ok text => .ok (some { text, kind := some kind, directory := id.asPath.parent? })
      | .error e => .error (failureOf id e)
  else .ok none

end FileLoader

end BundleGraph
