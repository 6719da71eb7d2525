/-!
# Paths

A path is a text in which slashes separate names.  What it means is its list of
components: runs of slashes and inner dots do not count, so `a//b/./c` and `a/b/c` have the
same ones.  The text is kept as written, because answers show it.

## Main definitions

* `Path.components` — what a path means.
* `Path.parent?`, `Path.fileName?`, `Path.extension?` — its parts.
* `Path.join` — a path read from a directory.
* `Path.clean` — the shortest path with the same meaning when names are not links.
-/

namespace BundleGraph

/-- A path as written. -/
structure Path where
  text : String
  deriving DecidableEq, Repr, Inhabited

namespace Path

/-- A part of a path. -/
inductive Component where
  /-- The slash that starts an absolute path. -/
  | root
  /-- The dot that starts a relative path. -/
  | current
  /-- Two dots. -/
  | parent
  | normal (name : String)
  deriving DecidableEq, Repr

/-! ## Pieces between slashes -/

/-- The pieces of a text between its slashes, empty ones too. -/
def split : List Char → List (List Char)
  | [] => [[]]
  | c :: cs =>
    if c = '/' then [] :: split cs
    else
      match split cs with
      | [] => [[c]]
      | p :: ps => (c :: p) :: ps

/-- Pieces with slashes between them. -/
def unsplit : List (List Char) → List Char
  | [] => []
  | [p] => p
  | p :: ps => p ++ '/' :: unsplit ps

/-- Whether a piece means nothing. -/
def isVoid (piece : List Char) : Bool :=
  piece.isEmpty || piece == ['.']

/-- The component a piece stands for, except at the start of a path. -/
def component? (piece : List Char) : Option Component :=
  if isVoid piece then none
  else if piece == ['.', '.'] then some .parent
  else some (.normal (String.ofList piece))

/-! ## Components -/

/-- Whether a path starts at the root. -/
def isAbsolute (p : Path) : Bool :=
  p.text.toList.head? == some '/'

/-- What a path means. -/
def components (p : Path) : List Component :=
  match p.text.toList with
  | '/' :: cs => .root :: (split cs).filterMap component?
  | cs =>
    match split cs with
    | ['.'] :: ps => .current :: ps.filterMap component?
    | ps => ps.filterMap component?

def Component.chars : Component → List Char
  | .root => []
  | .current => ['.']
  | .parent => ['.', '.']
  | .normal name => name.toList

def ofComponents : List Component → Path
  | .root :: cs => ⟨String.ofList ('/' :: unsplit (cs.map Component.chars))⟩
  | cs => ⟨String.ofList (unsplit (cs.map Component.chars))⟩

def startsWith (p base : Path) : Bool :=
  base.components.isPrefixOf p.components

/-! ## Parts -/

/-- The pieces before the last one that means something; none if there is no such piece. -/
def piecesBefore (ps : List (List Char)) : Option (List (List Char)) :=
  match ps.reverse.dropWhile isVoid with
  | [] => none
  | _ :: r => some (r.dropWhile isVoid).reverse

/-- The path without its last component; the root and the empty path have none. -/
def parent? (p : Path) : Option Path :=
  match p.text.toList with
  | '/' :: cs => (piecesBefore (split cs)).map fun ps => ⟨String.ofList ('/' :: unsplit ps)⟩
  | cs =>
    match split cs with
    | ['.'] :: ps =>
      match piecesBefore ps with
      | some ps => some ⟨String.ofList (unsplit (['.'] :: ps))⟩
      | none => some ⟨""⟩
    | ps => (piecesBefore ps).map fun ps => ⟨String.ofList (unsplit ps)⟩

/-- The last component, if it is a name. -/
def fileName? (p : Path) : Option String :=
  match p.components.getLast? with
  | some (.normal name) => some name
  | _ => none

/-- What follows the last dot of a name, unless the dot starts the name. -/
def extensionOf? (name : String) : Option String :=
  let back := name.toList.reverse
  match back.dropWhile (· != '.') with
  | [] => none
  | _ :: before =>
    if before.isEmpty then none else some (String.ofList (back.takeWhile (· != '.')).reverse)

/-- The extension of the last component, without its dot. -/
def extension? (p : Path) : Option String :=
  p.fileName?.bind extensionOf?

/-! ## New paths -/

def join (base p : Path) : Path :=
  if p.isAbsolute then p
  else if base.text.isEmpty || base.text.toList.getLast? == some '/' then ⟨base.text ++ p.text⟩
  else ⟨base.text ++ "/" ++ p.text⟩

def withFileName (p : Path) (name : String) : Path :=
  match p.fileName? with
  | some _ => (p.parent?.getD ⟨""⟩).join ⟨name⟩
  | none => p.join ⟨name⟩

/-- Takes one component into a clean list of them, which is held with its last one first. -/
def cleanStep (done : List Component) (c : Component) : List Component :=
  match c with
  | .current => done
  | .parent =>
    match done with
    | .root :: _ => done
    | .normal _ :: r => r
    | _ => .parent :: done
  | c => c :: done

/-- Components without dots, and without names that two dots take back. -/
def cleanComponents (cs : List Component) : List Component :=
  (cs.foldl cleanStep []).reverse

/-- The shortest path with the same meaning when names are not links; nothing becomes a dot. -/
def clean (p : Path) : Path :=
  match cleanComponents p.components with
  | [] => ⟨"."⟩
  | cs => ofComponents cs

end Path

end BundleGraph
