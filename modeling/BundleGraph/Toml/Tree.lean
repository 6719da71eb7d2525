import BundleGraph.Json.Basic

/-!
# Tables of a TOML document

A document is a tree of tables that grows by three operations: a header opens a table, a
header in double brackets adds an element to a list of tables, and an assignment sets a key.
A table can be opened once; tables that an assignment makes on its way are closed to
headers, and tables that have a header are closed to assignments from outside.

## Main definitions

* `Item` — what stands under a key.
* `openTable`, `openElement`, `assign` — the operations.
-/

namespace BundleGraph.Toml

/-- How a table came to be. -/
inductive Origin where
  /-- On the way to a table with a header. -/
  | implied
  | header
  /-- On the way of an assignment. -/
  | dotted
  deriving DecidableEq, Repr

/-- What stands under a key. -/
inductive Item where
  | value (v : Json)
  | table (origin : Origin) (entries : List (String × Item))
  /-- A list of tables, the latest first. -/
  | tables (elements : List (List (String × Item)))

/-- The entries of a table. -/
abbrev Entries := List (String × Item)

mutual

def Item.toJson : Item → Json
  | .value v => v
  | .table _ es => .ofFields (entriesJson es)
  | .tables ts => .arr (elementsJson ts).reverse

def entriesJson : Entries → List (String × Json)
  | [] => []
  | (k, i) :: es => (k, i.toJson) :: entriesJson es

def elementsJson : List Entries → List Json
  | [] => []
  | t :: ts => .ofFields (entriesJson t) :: elementsJson ts

end

/-- Entries with one of them replaced, or added at the end. -/
def put (k : String) (i : Item) : Entries → Entries
  | [] => [(k, i)]
  | (k', i') :: es => if k = k' then (k, i) :: es else (k', i') :: put k i es

/-- Changes the table that a path leads to, making tables on the way.  A list of tables leads to
its latest element; a value leads nowhere, and nor does a table with a header if `dotted`. -/
def alter (dotted : Bool) (change : Origin → Entries → Option Entries) :
    List String → Origin → Entries → Option Entries
  | [], origin, es => change origin es
  | k :: ks, _, es =>
    match Json.lookup k es with
    | none =>
      let origin := if dotted then .dotted else .implied
      (alter dotted change ks origin []).map fun sub => put k (.table origin sub) es
    | some (.table origin sub) =>
      if dotted && origin = .header then none
      else (alter dotted change ks origin sub).map fun sub => put k (.table origin sub) es
    | some (.tables (latest :: earlier)) =>
      (alter dotted change ks .header latest).map fun sub => put k (.tables (sub :: earlier)) es
    | some (.tables []) => none
    | some (.value _) => none

def openTable (path : List String) (k : String) (es : Entries) : Option Entries :=
  alter false (fun _ es =>
    match Json.lookup k es with
    | none => some (put k (.table .header []) es)
    | some (.table .implied sub) => some (put k (.table .header sub) es)
    | some _ => none) path .header es

/-- Adds an element to the list of tables of a header. -/
def openElement (path : List String) (k : String) (es : Entries) : Option Entries :=
  alter false (fun _ es =>
    match Json.lookup k es with
    | none => some (put k (.tables [[]]) es)
    | some (.tables ts) => some (put k (.tables ([] :: ts)) es)
    | some _ => none) path .header es

/-- Sets a key below a table; the key must be new.  A path of several keys has to end in a table
made by an assignment. -/
def assign (path : List String) (k : String) (v : Json) (es : Entries) : Option Entries :=
  alter true (fun origin es =>
    if (origin = .dotted) = (path = []) then none
    else
      match Json.lookup k es with
      | none => some (put k (.value v) es)
      | some _ => none) path .header es

/-- Sets a key below the table that was opened last. -/
def assignBelow (current path : List String) (k : String) (v : Json) (es : Entries) :
    Option Entries :=
  alter false (fun _ es => assign path k v es) current .header es

end BundleGraph.Toml
