import VarSchema.Constraint.Basic
import VarSchema.Options

/-!
# Which values a type describes

* `Primitive.describes` : the values of a kind without parts;
* `Constraint.conforms` : whether a value conforms to a constraint. The options decide whether optional
  attributes must be there and whether undeclared keys may be.
-/

namespace VarSchema

/-- Whether a value is of a kind without parts. -/
def Primitive.describes (k : Primitive) (v : Json) : Bool :=
  match k, v with
  | string, .str _ => true
  | number, .num _ => true
  | bool, .bool _ => true
  | any, _ => true
  | _, _ => false

namespace Constraint

def pairwiseDistinct (vs : List Json) : Bool :=
  decide (vs.Pairwise fun a b => a.equal b = false)

/-- Whether the keys of an object are as its declaration wants them. -/
def keysConform (options : Options) (declared : List String) (optional : NameSet)
    (keys : List String) : Bool :=
  (declared.all fun k => keys.contains k || (optional.contains k && !options.requireAll)) &&
    (options.allowAdditionalProperties || keys.all declared.contains)

mutual
/-- Whether a value conforms to a constraint. -/
def conforms (options : Options) : Constraint → Json → Bool
  | .primitive k, v => k.describes v
  | .list t, .arr items => items.all fun v => conforms options t v
  | .set t, .arr items => pairwiseDistinct items && items.all fun v => conforms options t v
  | .map t, .obj fields => fields.all fun e => conforms options t e.2
  | .tuple ts, .arr items => conformItems options ts items
  | .object attributes optional, .obj fields =>
    keysConform options (Entries.keys attributes) optional (Entries.keys fields) &&
      conformFields options attributes fields
  | _, _ => false
termination_by structural t => t

/-- Whether there is one value for each constraint, and each conforms. -/
def conformItems (options : Options) : List Constraint → List Json → Bool
  | [], [] => true
  | t :: ts, v :: vs => conforms options t v && conformItems options ts vs
  | _, _ => false
termination_by structural ts => ts

/-- Whether the value of each attribute that is there conforms. -/
def conformFields (options : Options) : List (String × Constraint) → List (String × Json) → Bool
  | [], _ => true
  | (k, t) :: rest, fields =>
    (match Entries.get? k fields with
     | some v => conforms options t v
     | none => true) && conformFields options rest fields
termination_by structural ts => ts
end

end Constraint

end VarSchema
