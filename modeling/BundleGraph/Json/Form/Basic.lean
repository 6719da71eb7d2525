import BundleGraph.ContentKind
import BundleGraph.Json.Basic
import BundleGraph.Path

/-!
# Values with a JSON form

A type with a JSON form has a function to it and one back.  A record is written as an
object; it is read from an object, whose other entries do not count, or from an array of its
fields in their order.  A name is read as text, or as an object whose only entry has that
key and the value `null`.

## Main definitions

* `JsonForm` — the two functions.
* `slots` — the fields of a record as they are found.
* `requiredField`, `optionalField`, `defaultedField` — what a field may do without.
-/

namespace BundleGraph

/-- A type whose values have a JSON form. -/
class JsonForm (α : Type) where
  /-- The form of a value. -/
  toJson : α → Json
  /-- The value of a form; none if it is no form. -/
  ofJson? : Json → Option α

export JsonForm (toJson ofJson?)

namespace JsonForm

/-! ## Plain values -/

instance : JsonForm String where
  toJson := .str
  ofJson? v :=
    match v with
    | .str s => some s
    | _ => none

instance : JsonForm Bool where
  toJson := .bool
  ofJson? v :=
    match v with
    | .bool b => some b
    | _ => none

instance : JsonForm Nat where
  toJson := .ofNat
  ofJson? v :=
    match v with
    | .num (.integer n) => if 0 ≤ n then some n.toNat else none
    | _ => none

instance : JsonForm Path where
  toJson p := .str p.text
  ofJson? v := (ofJson? v).map Path.mk

instance : JsonForm Json where
  toJson := id
  ofJson? := some

/-- The values of all members of a list, if every one has a value. -/
def allOf (f : α → Option β) : List α → Option (List β)
  | [] => some []
  | a :: as =>
    match f a, allOf f as with
    | some b, some bs => some (b :: bs)
    | _, _ => none

instance [JsonForm α] : JsonForm (List α) where
  toJson as := .arr (as.map toJson)
  ofJson? v :=
    match v with
    | .arr items => allOf ofJson? items
    | _ => none

/-- A map from texts, with its entries in the order of their keys. -/
structure Table (α : Type) where
  entries : List (String × α)

instance [JsonForm α] : JsonForm (Table α) where
  toJson t := .ofFields (t.entries.map fun e => (e.1, toJson e.2))
  ofJson? v :=
    match v with
    | .obj fields => (allOf (fun e => (ofJson? e.2).map (e.1, ·)) fields).map Table.mk
    | _ => none

/-! ## Names -/

/-- Reads a name: as text, or as an object whose only entry has it as its key. -/
def ofName? (named : String → Option α) (v : Json) : Option α :=
  match v with
  | .str s => named s
  | .obj [(s, .null)] => named s
  | _ => none

/-! ## Records -/

/-- A field of a record as it is found. -/
inductive Slot where
  | given (v : Json)
  /-- An object has no entry for it. -/
  | absent
  /-- An array ends before it. -/
  | short

/-- The fields of a record with the given names, as they are found in its form. -/
def slots (names : List String) (v : Json) : Option (List Slot) :=
  match v with
  | .obj fields =>
    some (names.map fun n =>
      match Json.lookup n fields with
      | some v => .given v
      | none => .absent)
  | .arr items =>
    if items.length ≤ names.length then
      some (items.map .given ++ List.replicate (names.length - items.length) .short)
    else none
  | _ => none

def requiredField [JsonForm α] : Slot → Option α
  | .given v => ofJson? v
  | _ => none

/-- The value of a field that may be `null`. -/
def nullable [JsonForm α] (v : Json) : Option (Option α) :=
  match v with
  | .null => some none
  | v => (ofJson? v).map some

/-- A field that an object may leave out. -/
def optionalField [JsonForm α] : Slot → Option (Option α)
  | .given v => nullable v
  | .absent => some none
  | .short => none

/-- A field with a default. -/
def defaultedField [JsonForm α] (d : α) : Slot → Option α
  | .given v => ofJson? v
  | _ => some d

/-- A field that may be left out in either form of a record. -/
def omissibleField [JsonForm α] : Slot → Option (Option α)
  | .given v => nullable v
  | _ => some none

/-- The entry of a field that is left out when it has no value. -/
def entryOf [JsonForm α] (name : String) : Option α → List (String × Json)
  | some a => [(name, toJson a)]
  | none => []

end JsonForm

end BundleGraph
