import VarSchema.Rule.Reason
import VarSchema.Schema.Node

/-!
# Conditions that list the allowed values

* `Enumeration.ofMembership` : `contains([a, b], var.x)`;
* `Enumeration.ofEqualities` : `var.x == a || b == var.x`, in any grouping, the values from left to right.

Both give the keyword `enum` with the constants in order, none dropped.
-/

namespace VarSchema

namespace Enumeration

/-- The schema of a list of allowed values. -/
def node (values : List Json) : Node := Node.empty.set "enum" (.arr values)

def constants : List Condition → Except Reason (List Json)
  | [] => .ok []
  | item :: rest =>
    match item.literalValue? with
    | none => .error (.itemNotConstant item)
    | some v => (constants rest).map (v :: ·)

/-- The items of a list, or of a literal array. -/
def listItems (c : Condition) : Except Reason (List Json) :=
  match c.unparen with
  | .list items => constants items
  | .literal (.arr items) => .ok items
  | _ => .error .notAList

def ofMembership (name : String) (c : Condition) : Except Reason Node :=
  match c.callArgs? "contains" 2 with
  | some [list, subject] =>
    match listItems list with
    | .error e => .error e
    | .ok values => if subject.isVar name then .ok (node values) else .error .containsOther
  | _ => .error .notContains

/-- The constant that an equality compares the variable with. -/
def equated (name : String) (lhs rhs : Condition) : Except Reason Json :=
  let (subject, value) := if rhs.isVar name then (rhs, lhs) else (lhs, rhs)
  if subject.isVar name then
    match value.literalValue? with
    | some v => .ok v
    | none => .error (.valueNotConstant value)
  else .error .variableNotFound

/-- The constants of a chain of equalities, from left to right. -/
def alternatives (name : String) : Condition → Except Reason (List Json)
  | .or l r =>
    match alternatives name l with
    | .error e => .error e
    | .ok vs => (alternatives name r).map (vs ++ ·)
  | .paren inner => alternatives name inner
  | .compare .eq l r => (equated name l r).map ([·])
  | .compare op _ _ => .error (.operatorNotEquality op)
  | .and _ _ => .error .conjunctionNotEquality
  | _ => .error .notEvaluable
termination_by structural c => c

def ofEqualities (name : String) (c : Condition) : Except Reason Node :=
  match alternatives name c with
  | .error e => .error e
  | .ok [] => .error .noOptions
  | .ok values => .ok (node values)

end Enumeration

end VarSchema
