/-!
# JSON values

Values with the entries of objects in increasing order of their keys and no key twice, so
that equal objects are equal as terms.  A number is an integer or a floating-point number,
held by its bits.

## Main definitions

* `Json.insert` — puts an entry into a sorted list of entries.
* `Json.ofFields` — an object from entries in any order; of two with one key the later counts.
* `Json.get?` — the entry of an object under a key.
-/

namespace BundleGraph

/-- A number as JSON tells them apart: `1` is an integer, `1.0` and `1e3` are not. -/
inductive JsonNumber where
  | integer (n : Int)
  | real (bits : UInt64)
  deriving DecidableEq, Repr

/-- A JSON value. -/
inductive Json where
  | null
  | bool (b : Bool)
  | num (n : JsonNumber)
  | str (s : String)
  | arr (items : List Json)
  | obj (fields : List (String × Json))
  deriving Repr

namespace Json

def ofInt (n : Int) : Json :=
  .num (.integer n)

/-- A natural number as a value. -/
def ofNat (n : Nat) : Json :=
  .num (.integer n)

/-- Puts an entry into entries sorted by key, in place of one with the same key. -/
def insert (k : String) (v : α) : List (String × α) → List (String × α)
  | [] => [(k, v)]
  | (k', v') :: r =>
    if k < k' then (k, v) :: (k', v') :: r
    else if k = k' then (k, v) :: r
    else (k', v') :: insert k v r

/-- Sorted entries from entries in any order; of two with one key the later counts. -/
def sortFields (fields : List (String × α)) : List (String × α) :=
  fields.foldl (fun acc e => insert e.1 e.2 acc) []

/-- An object from entries in any order. -/
def ofFields (fields : List (String × Json)) : Json :=
  .obj (sortFields fields)

/-- The value of an optional entry. -/
def ofOption (f : α → Json) : Option α → Json
  | some a => f a
  | none => .null

/-- The entry under a key in a list of entries. -/
def lookup (k : String) (fields : List (String × α)) : Option α :=
  (fields.find? fun e => e.1 == k).map (·.2)

/-- The entry of an object under a key; none if the value is no object. -/
def get? (v : Json) (k : String) : Option Json :=
  match v with
  | .obj fields => lookup k fields
  | _ => none

mutual

/-- Whether two values are equal. -/
def eq : Json → Json → Bool
  | .null, .null => true
  | .bool a, .bool b => a == b
  | .num a, .num b => a == b
  | .str a, .str b => a == b
  | .arr a, .arr b => eqItems a b
  | .obj a, .obj b => eqFields a b
  | _, _ => false

/-- Whether two lists of values are equal. -/
def eqItems : List Json → List Json → Bool
  | [], [] => true
  | a :: as, b :: bs => eq a b && eqItems as bs
  | _, _ => false

/-- Whether two lists of entries are equal. -/
def eqFields : List (String × Json) → List (String × Json) → Bool
  | [], [] => true
  | (k, a) :: as, (l, b) :: bs => k == l && eq a b && eqFields as bs
  | _, _ => false

end

mutual

theorem eq_iff (a b : Json) : eq a b = true ↔ a = b := by
  match a, b with
  | .null, .null => simp [eq]
  | .bool a, .bool b => simp [eq]
  | .num a, .num b => simp [eq]
  | .str a, .str b => simp [eq]
  | .arr a, .arr b => simp [eq, eqItems_iff a b]
  | .obj a, .obj b => simp [eq, eqFields_iff a b]
  | .null, .bool _ | .null, .num _ | .null, .str _ | .null, .arr _ | .null, .obj _ => simp [eq]
  | .bool _, .null | .bool _, .num _ | .bool _, .str _ | .bool _, .arr _ | .bool _, .obj _ =>
    simp [eq]
  | .num _, .null | .num _, .bool _ | .num _, .str _ | .num _, .arr _ | .num _, .obj _ => simp [eq]
  | .str _, .null | .str _, .bool _ | .str _, .num _ | .str _, .arr _ | .str _, .obj _ => simp [eq]
  | .arr _, .null | .arr _, .bool _ | .arr _, .num _ | .arr _, .str _ | .arr _, .obj _ => simp [eq]
  | .obj _, .null | .obj _, .bool _ | .obj _, .num _ | .obj _, .str _ | .obj _, .arr _ => simp [eq]

theorem eqItems_iff (a b : List Json) : eqItems a b = true ↔ a = b := by
  match a, b with
  | [], [] => simp [eqItems]
  | x :: xs, y :: ys => simp [eqItems, eq_iff x y, eqItems_iff xs ys]
  | [], _ :: _ | _ :: _, [] => simp [eqItems]

theorem eqFields_iff (a b : List (String × Json)) : eqFields a b = true ↔ a = b := by
  match a, b with
  | [], [] => simp [eqFields]
  | (k, x) :: xs, (l, y) :: ys => simp [eqFields, eq_iff x y, eqFields_iff xs ys, and_assoc]
  | [], _ :: _ | _ :: _, [] => simp [eqFields]

end

instance : DecidableEq Json := fun a b =>
  decidable_of_iff (eq a b = true) (eq_iff a b)

instance : Inhabited Json := ⟨.null⟩

end Json

end BundleGraph
