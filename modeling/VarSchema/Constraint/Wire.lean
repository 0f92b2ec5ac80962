import VarSchema.Constraint.Basic

/-!
# The JSON form of type constraints

A primitive is its keyword; `["list", T]`, `["set", T]` and `["map", T]` are containers,
`["tuple", [T, ...]]` a tuple, and `["object", attributes]` or `["object", attributes, names]` an object
with optional names. No type at all is `any`.

* `Constraint.ofJson` : reads the form; an error points at the constraint that has the wrong shape;
* `Constraint.toJson` : writes it, names in order and only if there are some.
-/

namespace VarSchema

namespace Constraint

def tupleSegment (i : Nat) : String := "tuple[" ++ toString i ++ "]"

def attributeSegment (name : String) : String := "object." ++ name

def optionalNames : List Json → Except TypeError (List String)
  | [] => .ok []
  | .str k :: rest => (optionalNames rest).map (k :: ·)
  | v :: _ => .error (.structural (.optionalNames v))

/-- The set of optional attributes, from the argument behind the attributes. -/
def optionalSet : List Json → Except TypeError NameSet
  | .arr names :: _ => (optionalNames names).map NameSet.ofList
  | v :: _ => .error (.structural (.optionalNames v))
  | [] => .ok NameSet.empty

def withOptional (fields : List (String × Constraint)) (rest : List Json) :
    Except TypeError Constraint :=
  match optionalSet rest with
  | .error e => .error e
  | .ok optional =>
    match undeclared? (Entries.keys fields) optional with
    | some name => .error (.structural (.undeclaredOptional name))
    | none => .ok (.object fields optional)

mutual
def ofJson : Json → Except TypeError Constraint
  | .null => .ok any
  | .str k =>
    match Primitive.ofKeyword? k with
    | some p => .ok (.primitive p)
    | none => .error (.unknownKind k)
  | .arr parts => ofParts parts
  | v => .error (.structural (.notStringOrArray v))
termination_by structural v => v

/-- The constraint of an array: a kind and its arguments. -/
def ofParts : List Json → Except TypeError Constraint
  | [] => .error (.structural .emptyArray)
  | .str kind :: args =>
    if kind = "list" then ofElement kind .list args
    else if kind = "set" then ofElement kind .set args
    else if kind = "map" then ofElement kind .map args
    else if kind = "tuple" then ofTuple args
    else if kind = "object" then ofObject args
    else .error (.unknownKind kind)
  | v :: _ => .error (.structural (.kindNotString v))
termination_by structural vs => vs

/-- A container with one element type. -/
def ofElement (kind : String) (wrap : Constraint → Constraint) :
    List Json → Except TypeError Constraint
  | [] => .error (.structural (.elementArity kind 0))
  | v :: rest =>
    if rest.isEmpty then
      match ofJson v with
      | .ok t => .ok (wrap t)
      | .error e => .error (e.within kind)
    else .error (.structural (.elementArity kind (rest.length + 1)))
termination_by structural vs => vs

def ofTuple : List Json → Except TypeError Constraint
  | [] => .error (.structural (.tupleArity 0))
  | v :: rest => if rest.isEmpty then ofElements v else .error (.structural (.tupleArity (rest.length + 1)))
termination_by structural vs => vs

/-- A tuple of the elements of an array. -/
def ofElements : Json → Except TypeError Constraint
  | .arr vs => (ofItems 0 vs).map .tuple
  | v => .error (.structural (.tupleElements v))
termination_by structural v => v

def ofItems : Nat → List Json → Except TypeError (List Constraint)
  | _, [] => .ok []
  | i, v :: rest =>
    match ofJson v with
    | .error e => .error (e.within (tupleSegment i))
    | .ok t => (ofItems (i + 1) rest).map (t :: ·)
termination_by structural _ vs => vs

def ofObject : List Json → Except TypeError Constraint
  | [] => .error (.structural (.objectArity 0))
  | v :: rest =>
    if 1 < rest.length then .error (.structural (.objectArity (rest.length + 1)))
    else
      match ofAttributes v with
      | .error e => .error e
      | .ok fields => withOptional fields rest
termination_by structural vs => vs

def ofAttributes : Json → Except TypeError (List (String × Constraint))
  | .obj attributes => ofFields attributes
  | v => .error (.structural (.attributes v))
termination_by structural v => v

def ofFields : List (String × Json) → Except TypeError (List (String × Constraint))
  | [] => .ok []
  | (k, v) :: rest =>
    match ofJson v with
    | .error e => .error (e.within (attributeSegment k))
    | .ok t => (ofFields rest).map ((k, t) :: ·)
termination_by structural es => es
end

mutual
def toJson : Constraint → Json
  | .primitive k => .str k.keyword
  | .object fields optional =>
    .arr ([.str "object", .obj (toFields fields)] ++
      if optional.isEmpty then [] else [.arr (optional.toList.map .str)])
  | .map t => .arr [.str "map", toJson t]
  | .list t => .arr [.str "list", toJson t]
  | .set t => .arr [.str "set", toJson t]
  | .tuple ts => .arr [.str "tuple", .arr (toItems ts)]
termination_by structural t => t

def toFields : List (String × Constraint) → List (String × Json)
  | [] => []
  | (k, t) :: rest => (k, toJson t) :: toFields rest
termination_by structural ts => ts

def toItems : List Constraint → List Json
  | [] => []
  | t :: rest => toJson t :: toItems rest
termination_by structural ts => ts
end

end Constraint

end VarSchema
