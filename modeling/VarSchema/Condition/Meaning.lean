import VarSchema.Condition.Basic
import VarSchema.SchemaPattern

/-!
# What conditions say

* `Condition.value?` : the value of an expression when the variable has a value; expressions that are
  no values, and other variables, have none;
* `Comparison.holds` : a comparison of two values. Equality is that of JSON values with numbers compared
  by value, and order is that of exact numbers;
* `Condition.holds` : whether a condition is true when the variable has a value.

Parentheses change nothing. The length of a value is its number of items, entries or code points.
-/

namespace VarSchema

/-- The number of items, entries or code points. -/
def Json.length? : Json → Option Nat
  | .arr items => some items.length
  | .obj fields => some fields.length
  | .str s => some s.length
  | _ => none

/-- Whether a comparison of two values is true; only numbers are ordered. -/
def Comparison.holds (op : Comparison) (a b : Json) : Bool :=
  match op, a, b with
  | eq, a, b => a.equal b
  | ne, a, b => !a.equal b
  | lt, .num m, .num n => m.less n
  | le, .num m, .num n => !n.less m
  | gt, .num m, .num n => n.less m
  | ge, .num m, .num n => !m.less n
  | _, _, _ => false

namespace Condition

def lengthValue? (v : Json) : Option Json := v.length?.map fun n => .int n

def callValue? (function : String) (args : List Json) : Option Json :=
  match args with
  | [v] => if function = "length" then lengthValue? v else none
  | _ => none

mutual
/-- The value of an expression when the variable `name` has the value `v`. -/
def value? (name : String) (v : Json) : Condition → Option Json
  | .varRef n => if n = name then some v else none
  | .literal w => some w
  | .list items => (values? name v items).map .arr
  | .length target => (value? name v target).bind lengthValue?
  | .call function args => (values? name v args).bind (callValue? function)
  | .paren inner => value? name v inner
  | _ => none
termination_by structural c => c

def values? (name : String) (v : Json) : List Condition → Option (List Json)
  | [] => some []
  | c :: rest =>
    match value? name v c, values? name v rest with
    | some w, some ws => some (w :: ws)
    | _, _ => none
termination_by structural cs => cs
end

def containsValue (args : List Json) : Bool :=
  match args with
  | [.arr items, w] => items.any w.equal
  | _ => false

def matchesText (args : List Json) : Bool :=
  match args with
  | [.str pattern, .str s] => (SchemaPattern.ofText? pattern).any fun p => p.finds s
  | _ => false

/-- Whether this is a match of a text with a pattern that succeeds. -/
def succeeds (name : String) (v : Json) (c : Condition) : Bool :=
  match c.callArgs? "regex" 2 with
  | some args => (values? name v args).any matchesText
  | none => false

/-- Whether a condition is true when the variable `name` has the value `v`. -/
def holds (name : String) (v : Json) : Condition → Bool
  | .and l r => holds name v l && holds name v r
  | .or l r => holds name v l || holds name v r
  | .paren inner => holds name v inner
  | .compare op l r =>
    match value? name v l, value? name v r with
    | some a, some b => op.holds a b
    | _, _ => false
  | .call function args =>
    if function = "contains" then (values? name v args).any containsValue
    else if function = "can" then
      match args with
      | [inner] => succeeds name v inner
      | _ => false
    else false
  | _ => false
termination_by structural c => c

end Condition

end VarSchema
