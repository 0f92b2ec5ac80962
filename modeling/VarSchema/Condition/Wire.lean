import VarSchema.Condition.Basic
import VarSchema.Options

/-!
# The JSON form of conditions

A condition is an object whose `kind` names it and whose other known keys are its fields, or an array of
the kind and its fields in order. Unknown keys are ignored; a known key may not be repeated. Inside another
condition the kind may also be given by its number. An operator is its symbol, or an object with the symbol as
its only key and without a value.

* `Condition.ofJson?` : reads the form; `Condition.kindOf?` : the kind that a value names;
* `Condition.toJson` : writes it as an object, a call always with its arguments.
-/

namespace VarSchema

def Comparison.ofJson? : Json → Option Comparison
  | .str s => ofSymbol? s
  | .obj [(s, .null)] => ofSymbol? s
  | _ => none

namespace Condition

/-- The kinds, in the order of their numbers. -/
def kinds : List String :=
  ["and", "or", "compare", "call", "var_ref", "length", "literal", "list", "paren"]

/-- The kind that a value names, inside another condition perhaps by its number. -/
def kindOf? (nested : Bool) : Json → Option String
  | .str kind => some kind
  | .num (.integer n) => if nested && decide (0 ≤ n) then kinds[n.toNat]? else none
  | _ => none

/-- The fields of each kind, in order. -/
def fieldNames (kind : String) : List String :=
  if kind = "and" ∨ kind = "or" then ["lhs", "rhs"]
  else if kind = "compare" then ["op", "lhs", "rhs"]
  else if kind = "call" then ["name", "args"]
  else if kind = "var_ref" then ["name"]
  else if kind = "length" then ["target"]
  else if kind = "literal" then ["value"]
  else if kind = "list" then ["items"]
  else if kind = "paren" then ["inner"]
  else []

/-- The fields of a condition by name: whether a field is there, and its value read as JSON, as a
condition or as a list of conditions, unless it is missing or repeated. -/
structure Fields where
  present : String → Bool
  json? : String → Option Json
  condition? : String → Option Condition
  conditions? : String → Option (List Condition)

def operator? : Json → Option Comparison
  | .obj [(s, .obj [])] => Comparison.ofSymbol? s
  | v => Comparison.ofJson? v

def assemble? (kind : String) (f : Fields) : Option Condition :=
  let text? (k : String) : Option String := (f.json? k).bind Json.text?
  if kind = "and" then do return .and (← f.condition? "lhs") (← f.condition? "rhs")
  else if kind = "or" then do return .or (← f.condition? "lhs") (← f.condition? "rhs")
  else if kind = "compare" then do
    return .compare (← (f.json? "op").bind operator?) (← f.condition? "lhs") (← f.condition? "rhs")
  else if kind = "call" then do
    return .call (← text? "name") (← if f.present "args" then f.conditions? "args" else some [])
  else if kind = "var_ref" then (text? "name").map .varRef
  else if kind = "length" then (f.condition? "target").map .length
  else if kind = "literal" then (f.json? "value").map fun v => .literal v.canonical
  else if kind = "list" then (f.conditions? "items").map .list
  else if kind = "paren" then (f.condition? "inner").map .paren
  else none

mutual
def read? (nested : Bool) : Json → Option Condition
  | .obj fields =>
    (requiredField "kind" (kindOf? nested) fields).bind fun kind =>
      assemble? kind ⟨fun k => !(fieldValues k fields).isEmpty, fun k => requiredField k some fields,
        fun k => fieldCondition? k fields, fun k => fieldConditions? k fields⟩
  | .arr items => readItems? nested items
  | _ => none
termination_by structural v => v

/-- The condition of an array: its kind, then its fields in order. -/
def readItems? (nested : Bool) : List Json → Option Condition
  | [] => none
  | kind :: rest =>
    (kindOf? nested kind).bind fun kind =>
      let names := fieldNames kind
      if names.length < rest.length then none
      else assemble? kind ⟨fun k => ((names.zip rest).lookup k).isSome, fun k => (names.zip rest).lookup k,
        fun k => itemCondition? k names rest, fun k => itemConditions? k names rest⟩
termination_by structural vs => vs

/-- The condition at a key that occurs once. -/
def fieldCondition? (k : String) : List (String × Json) → Option Condition
  | [] => none
  | (l, v) :: rest =>
    if l = k then if (fieldValues k rest).isEmpty then read? true v else none
    else fieldCondition? k rest
termination_by structural es => es

def fieldConditions? (k : String) : List (String × Json) → Option (List Condition)
  | [] => none
  | (l, v) :: rest =>
    if l = k then if (fieldValues k rest).isEmpty then readArray? true v else none
    else fieldConditions? k rest
termination_by structural es => es

/-- The condition at the position of a name. -/
def itemCondition? (k : String) : List String → List Json → Option Condition
  | l :: names, v :: rest => if l = k then read? true v else itemCondition? k names rest
  | _, _ => none
termination_by structural _ vs => vs

def itemConditions? (k : String) : List String → List Json → Option (List Condition)
  | l :: names, v :: rest => if l = k then readArray? true v else itemConditions? k names rest
  | _, _ => none
termination_by structural _ vs => vs

/-- The conditions of a JSON value that is an array of them. -/
def readArray? (nested : Bool) : Json → Option (List Condition)
  | .arr items => readList? nested items
  | _ => none
termination_by structural v => v

def readList? (nested : Bool) : List Json → Option (List Condition)
  | [] => some []
  | v :: rest =>
    match read? nested v with
    | none => none
    | some c => (readList? nested rest).map (c :: ·)
termination_by structural vs => vs
end

/-- The condition of a JSON value by itself. -/
def ofJson? (v : Json) : Option Condition := read? false v

def ofArray? (v : Json) : Option (List Condition) := readArray? false v

mutual
/-- The JSON form, its keys in order. -/
def toJson : Condition → Json
  | .and l r => .obj [("kind", .str "and"), ("lhs", toJson l), ("rhs", toJson r)]
  | .or l r => .obj [("kind", .str "or"), ("lhs", toJson l), ("rhs", toJson r)]
  | .compare op l r =>
    .obj [("kind", .str "compare"), ("lhs", toJson l), ("op", .str op.symbol), ("rhs", toJson r)]
  | .call name args =>
    .obj [("args", .arr (toItems args)), ("kind", .str "call"), ("name", .str name)]
  | .varRef name => .obj [("kind", .str "var_ref"), ("name", .str name)]
  | .length target => .obj [("kind", .str "length"), ("target", toJson target)]
  | .literal v => .obj [("kind", .str "literal"), ("value", v)]
  | .list items => .obj [("items", .arr (toItems items)), ("kind", .str "list")]
  | .paren inner => .obj [("inner", toJson inner), ("kind", .str "paren")]
termination_by structural c => c

def toItems : List Condition → List Json
  | [] => []
  | c :: rest => toJson c :: toItems rest
termination_by structural cs => cs
end

end Condition

end VarSchema
