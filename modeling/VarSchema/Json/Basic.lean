import VarSchema.KeyMap
import VarSchema.Number.Basic

/-!
# JSON values

* `Json` : null, booleans, numbers, texts, arrays and objects; an object is a list of entries;
* `Json.Ordered` : in every object inside, keys strictly increase. Values that are read, decoded or
  built here are ordered, except between reading a text and `Json.canonical`;
* `Json.canonical` : brings every object into key order, of repeated keys the last one staying;
* `Json.same` : equality up to an equality of numbers; `Json.equal` compares numbers by value, and
  `DecidableEq Json` is the same walk with equality of numbers as data.
-/

namespace VarSchema

inductive Json where
  | null
  | bool (b : Bool)
  | num (n : Number)
  | str (s : String)
  | arr (items : List Json)
  | obj (fields : List (String × Json))

namespace Json

instance : Inhabited Json := ⟨.null⟩

def int (n : Int) : Json := .num (.integer n)

def field? (k : String) : Json → Option Json
  | .obj fields => Entries.get? k fields
  | _ => none

def text? : Json → Option String
  | .str s => some s
  | _ => none

def number? : Json → Option Number
  | .num n => some n
  | _ => none

/-! ## Key order -/

mutual
/-- Every object inside has strictly increasing keys. -/
def Ordered : Json → Prop
  | .arr items => OrderedItems items
  | .obj fields => Entries.Ordered fields ∧ OrderedFields fields
  | _ => True
termination_by structural v => v

def OrderedItems : List Json → Prop
  | [] => True
  | v :: rest => Ordered v ∧ OrderedItems rest
termination_by structural vs => vs

def OrderedFields : List (String × Json) → Prop
  | [] => True
  | (_, v) :: rest => Ordered v ∧ OrderedFields rest
termination_by structural es => es
end

mutual
/-- The value with every object in key order, of repeated keys the last one staying. -/
def canonical : Json → Json
  | .arr items => .arr (canonicalItems items)
  | .obj fields => .obj (Entries.sorted (canonicalFields fields))
  | v => v
termination_by structural v => v

def canonicalItems : List Json → List Json
  | [] => []
  | v :: rest => canonical v :: canonicalItems rest
termination_by structural vs => vs

def canonicalFields : List (String × Json) → List (String × Json)
  | [] => []
  | (k, v) :: rest => (k, canonical v) :: canonicalFields rest
termination_by structural es => es
end

/-! ## Equality -/

mutual
/-- Equality of values when numbers are compared by `eqv`. -/
def same (eqv : Number → Number → Bool) : Json → Json → Bool
  | .null, .null => true
  | .bool a, .bool b => a == b
  | .num a, .num b => eqv a b
  | .str a, .str b => a == b
  | .arr xs, .arr ys => sameItems eqv xs ys
  | .obj xs, .obj ys => sameFields eqv xs ys
  | _, _ => false
termination_by structural v => v

def sameItems (eqv : Number → Number → Bool) : List Json → List Json → Bool
  | [], [] => true
  | x :: xs, y :: ys => same eqv x y && sameItems eqv xs ys
  | _, _ => false
termination_by structural vs => vs

def sameFields (eqv : Number → Number → Bool) :
    List (String × Json) → List (String × Json) → Bool
  | [], [] => true
  | (k, x) :: xs, (l, y) :: ys => k == l && same eqv x y && sameFields eqv xs ys
  | _, _ => false
termination_by structural es => es
end

/-- Equality of values, numbers compared by value: `1` equals `1.0`. -/
def equal (a b : Json) : Bool := same Number.equal a b

mutual
theorem same_iff : ∀ a b : Json, same (fun m n => decide (m = n)) a b = true ↔ a = b
  | .null, b => by cases b <;> simp [same]
  | .bool _, b => by cases b <;> simp [same]
  | .num _, b => by cases b <;> simp [same]
  | .str _, b => by cases b <;> simp [same]
  | .arr xs, b => by cases b <;> simp [same, sameItems_iff xs]
  | .obj xs, b => by cases b <;> simp [same, sameFields_iff xs]
termination_by structural v => v

theorem sameItems_iff : ∀ xs ys : List Json,
    sameItems (fun m n => decide (m = n)) xs ys = true ↔ xs = ys
  | [], ys => by cases ys <;> simp [sameItems]
  | x :: xs, ys => by cases ys <;> simp [sameItems, same_iff x, sameItems_iff xs]
termination_by structural vs => vs

theorem sameFields_iff : ∀ xs ys : List (String × Json),
    sameFields (fun m n => decide (m = n)) xs ys = true ↔ xs = ys
  | [], ys => by cases ys <;> simp [sameFields]
  | (k, x) :: xs, ys => by
    cases ys <;> simp [sameFields, same_iff x, sameFields_iff xs, Prod.ext_iff]
termination_by structural es => es
end

instance : DecidableEq Json := fun a b =>
  decidable_of_iff (same (fun m n => decide (m = n)) a b = true) (same_iff a b)

end Json

end VarSchema
