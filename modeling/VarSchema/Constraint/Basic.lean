import VarSchema.Constraint.Error

/-!
# Type constraints

A type constraint describes the values a variable may take.

* `Constraint` : primitives, lists, sets, maps, tuples, and objects with optional attributes;
* `Constraint.undeclared?` : the first optional name that an object does not declare;
  `Constraint.WellFormed` : no object inside has one;
* `Constraint.Ordered` : in every object inside, attribute names strictly increase;
* `Constraint.object?` : an object whose optional names are all declared;
* `Constraint.display` : the constraint as a configuration writes it.
-/

namespace VarSchema

/-- A kind without parts. -/
inductive Primitive where
  | string
  | number
  | bool
  | any
deriving DecidableEq

namespace Primitive

def keyword : Primitive → String
  | string => "string"
  | number => "number"
  | bool => "bool"
  | any => "any"

/-- The schema type of the kind; `any` has none. -/
def schemaType? : Primitive → Option String
  | string => some "string"
  | number => some "number"
  | bool => some "boolean"
  | any => none

/-- The kind of a keyword; `any` has two. -/
def ofKeyword? (s : String) : Option Primitive :=
  if s = "string" then some string
  else if s = "number" then some number
  else if s = "bool" then some bool
  else if s = "any" ∨ s = "dynamic" then some any
  else none

end Primitive

inductive Constraint where
  | primitive (kind : Primitive)
  | object (fields : List (String × Constraint)) (optional : NameSet)
  | map (element : Constraint)
  | list (element : Constraint)
  | set (element : Constraint)
  | tuple (elements : List Constraint)

namespace Constraint

/-- The constraint that every value meets. -/
def any : Constraint := .primitive .any

instance : Inhabited Constraint := ⟨any⟩

def isAny : Constraint → Bool
  | .primitive .any => true
  | _ => false

def kindName : Constraint → String
  | .primitive k => k.keyword
  | .object _ _ => "object"
  | .map _ => "map"
  | .list _ => "list"
  | .set _ => "set"
  | .tuple _ => "tuple"

/-! ## Optional names -/

/-- The smallest optional name that is no attribute. -/
def undeclared? (names : List String) (optional : NameSet) : Option String :=
  optional.toList.find? fun k => !names.contains k

mutual
/-- Every optional name inside is an attribute of its object. -/
def WellFormed : Constraint → Prop
  | .primitive _ => True
  | .object fields optional =>
    (∀ k ∈ optional.toList, k ∈ Entries.keys fields) ∧ WellFormedFields fields
  | .map t => WellFormed t
  | .list t => WellFormed t
  | .set t => WellFormed t
  | .tuple ts => WellFormedItems ts
termination_by structural t => t

def WellFormedFields : List (String × Constraint) → Prop
  | [] => True
  | (_, t) :: rest => WellFormed t ∧ WellFormedFields rest
termination_by structural ts => ts

def WellFormedItems : List Constraint → Prop
  | [] => True
  | t :: rest => WellFormed t ∧ WellFormedItems rest
termination_by structural ts => ts
end

mutual
/-- In every object inside, attribute names strictly increase. -/
def Ordered : Constraint → Prop
  | .primitive _ => True
  | .object fields _ => Entries.Ordered fields ∧ OrderedFields fields
  | .map t => Ordered t
  | .list t => Ordered t
  | .set t => Ordered t
  | .tuple ts => OrderedItems ts
termination_by structural t => t

def OrderedFields : List (String × Constraint) → Prop
  | [] => True
  | (_, t) :: rest => Ordered t ∧ OrderedFields rest
termination_by structural ts => ts

def OrderedItems : List Constraint → Prop
  | [] => True
  | t :: rest => Ordered t ∧ OrderedItems rest
termination_by structural ts => ts
end

/-- An object of the given attributes; the error names an optional one that is not among them. -/
def object? (fields : KeyMap Constraint) (optional : NameSet) : Except TypeError Constraint :=
  match undeclared? fields.keys optional with
  | some name => .error (.structural (.undeclaredOptional name))
  | none => .ok (.object fields.entries optional)

/-! ## Text -/

mutual
/-- The constraint as a configuration writes it. -/
def display : Constraint → String
  | .primitive k => k.keyword
  | .object fields optional =>
    "object(\x7b" ++ ", ".intercalate (displayFields optional fields) ++ "\x7d)"
  | .map t => "map(" ++ display t ++ ")"
  | .list t => "list(" ++ display t ++ ")"
  | .set t => "set(" ++ display t ++ ")"
  | .tuple ts => "tuple([" ++ ", ".intercalate (displayItems ts) ++ "])"
termination_by structural t => t

def displayFields (optional : NameSet) : List (String × Constraint) → List String
  | [] => []
  | (k, t) :: rest =>
    (k ++ " = " ++ (if optional.contains k then "optional(" ++ display t ++ ")" else display t)) ::
      displayFields optional rest
termination_by structural ts => ts

def displayItems : List Constraint → List String
  | [] => []
  | t :: rest => display t :: displayItems rest
termination_by structural ts => ts
end

/-! ## Equality -/

mutual
def same : Constraint → Constraint → Bool
  | .primitive a, .primitive b => a == b
  | .object xs a, .object ys b => sameFields xs ys && decide (a = b)
  | .map a, .map b => same a b
  | .list a, .list b => same a b
  | .set a, .set b => same a b
  | .tuple xs, .tuple ys => sameItems xs ys
  | _, _ => false
termination_by structural t => t

def sameFields : List (String × Constraint) → List (String × Constraint) → Bool
  | [], [] => true
  | (k, x) :: xs, (l, y) :: ys => k == l && same x y && sameFields xs ys
  | _, _ => false
termination_by structural ts => ts

def sameItems : List Constraint → List Constraint → Bool
  | [], [] => true
  | x :: xs, y :: ys => same x y && sameItems xs ys
  | _, _ => false
termination_by structural ts => ts
end

mutual
theorem same_iff : ∀ a b : Constraint, same a b = true ↔ a = b
  | .primitive _, b => by cases b <;> simp [same]
  | .object xs _, b => by cases b <;> simp [same, sameFields_iff xs]
  | .map a, b => by cases b <;> simp [same, same_iff a]
  | .list a, b => by cases b <;> simp [same, same_iff a]
  | .set a, b => by cases b <;> simp [same, same_iff a]
  | .tuple xs, b => by cases b <;> simp [same, sameItems_iff xs]
termination_by structural t => t

theorem sameFields_iff : ∀ xs ys : List (String × Constraint), sameFields xs ys = true ↔ xs = ys
  | [], ys => by cases ys <;> simp [sameFields]
  | (_, x) :: xs, ys => by
    cases ys <;> simp [sameFields, same_iff x, sameFields_iff xs, Prod.ext_iff]
termination_by structural ts => ts

theorem sameItems_iff : ∀ xs ys : List Constraint, sameItems xs ys = true ↔ xs = ys
  | [], ys => by cases ys <;> simp [sameItems]
  | x :: xs, ys => by cases ys <;> simp [sameItems, same_iff x, sameItems_iff xs]
termination_by structural ts => ts
end

instance : DecidableEq Constraint := fun a b => decidable_of_iff (same a b = true) (same_iff a b)

end Constraint

end VarSchema
