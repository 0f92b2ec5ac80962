import VarSchema.Constraint.Wire
import VarSchema.Options
import VarSchema.Schema.Nullable

/-!
# The schema of a type constraint

* `Constraint.toNode` : the schema of a constraint by its position, for `any` is the empty schema at the
  top of a variable and six titled branches inside a container;
* `Constraint.translate` : the schema of a variable's constraint, wrapped if the variable is nullable.

A translation fails exactly when some object inside has an optional name that is no attribute; the error
points at the first such object.
-/

namespace VarSchema

namespace Constraint

/-- Where a constraint stands. -/
inductive Position where
  | top
  | nested
deriving DecidableEq

/-- The types of the branches of a nested `any`. -/
def branchTypes : List String := ["object", "array", "string", "number", "boolean", "null"]

def genericNode : Node :=
  Node.empty.set "anyOf" (.arr (branchTypes.map fun t =>
    ((Node.typed t).set "title" (.str t)).toJson))

def primitiveNode (k : Primitive) (position : Position) : Node :=
  match k.schemaType?, position with
  | some t, _ => .typed t
  | none, .top => .empty
  | none, .nested => genericNode

def objectNode (options : Options) (optional : NameSet) (properties : List (String × Json)) : Node :=
  let required := (Entries.keys properties).filter fun k =>
    options.requireAll || !optional.contains k
  (((Node.typed "object").set "additionalProperties" (.bool options.allowAdditionalProperties)).set
    "properties" (.obj properties)).set "required" (.arr (required.map .str))

def tupleNode (items : List Json) : Node :=
  (((Node.typed "array").set "items" (.arr items)).set
    "minItems" (.int items.length)).set "maxItems" (.int items.length)

/-- The result of a part, seen from the constraint that holds it. -/
def within (segment : String) (r : Except TypeError α) : Except TypeError α :=
  r.mapError (TypeError.within segment)

mutual
/-- The schema of a constraint. -/
def toNode (options : Options) (position : Position) : Constraint → Except TypeError Node
  | .primitive k => .ok (primitiveNode k position)
  | .object fields optional =>
    match undeclared? (Entries.keys fields) optional with
    | some name => within "object" (.error (.structural (.undeclaredOptional name)))
    | none => (fieldNodes options fields).map (objectNode options optional)
  | .map t => (within "map" (toNode options .nested t)).map fun n =>
    (Node.typed "object").set "additionalProperties" n.toJson
  | .list t => (within "list" (toNode options .nested t)).map fun n =>
    (Node.typed "array").set "items" n.toJson
  | .set t => (within "set" (toNode options .nested t)).map fun n =>
    ((Node.typed "array").set "uniqueItems" (.bool true)).set "items" n.toJson
  | .tuple ts => (itemNodes options 0 ts).map tupleNode
termination_by structural t => t

def fieldNodes (options : Options) :
    List (String × Constraint) → Except TypeError (List (String × Json))
  | [] => .ok []
  | (k, t) :: rest =>
    match within (attributeSegment k) (toNode options .nested t) with
    | .error e => .error e
    | .ok n => (fieldNodes options rest).map ((k, n.toJson) :: ·)
termination_by structural ts => ts

def itemNodes (options : Options) : Nat → List Constraint → Except TypeError (List Json)
  | _, [] => .ok []
  | i, t :: rest =>
    match within (tupleSegment i) (toNode options .nested t) with
    | .error e => .error e
    | .ok n => (itemNodes options (i + 1) rest).map (n.toJson :: ·)
termination_by structural _ ts => ts
end

/-- The schema of a variable's constraint. -/
def translate (name : String) (nullable : Bool) (options : Options) (t : Constraint) :
    Except TypeError Node :=
  let node := toNode options .top t
  if nullable then node.map (Node.wrap name) else node

end Constraint

end VarSchema
