import VarSchema.Json.Basic
import VarSchema.SchemaPattern

/-!
# Which values a schema accepts

A schema is a JSON value: a boolean, or an object whose keywords each assert something about values of
some JSON type.

* `Assertion.holds` : the keywords whose value holds no schema;
* `Schema.accepts` : acceptance by a schema, keyword by keyword. A keyword that is unknown or whose value
  has another form than it should asserts nothing; `Schema.isWellFormed` excludes the latter.
-/

namespace VarSchema

namespace Assertion

def isWhole : Number → Bool
  | .integer _ => true
  | .float x => x.isWhole

def hasType (name : String) (v : Json) : Bool :=
  match v with
  | .null => name == "null"
  | .bool _ => name == "boolean"
  | .num n => name == "number" || (name == "integer" && isWhole n)
  | .str _ => name == "string"
  | .arr _ => name == "array"
  | .obj _ => name == "object"

def typeNames (w : Json) : List String :=
  match w with
  | .str t => [t]
  | .arr ts => ts.filterMap Json.text?
  | _ => []

def itemsOf : Json → List Json
  | .arr items => items
  | _ => []

def fieldsOf : Json → List (String × Json)
  | .obj fields => fields
  | _ => []

/-- The number of code points of a text, items of an array or entries of an object, each for the keywords
that count them. -/
def count? (k : String) (v : Json) : Option Nat :=
  if k = "minLength" ∨ k = "maxLength" then v.text?.map String.length
  else if k = "minItems" ∨ k = "maxItems" then
    match v with
    | .arr items => some items.length
    | _ => none
  else if k = "minProperties" ∨ k = "maxProperties" then
    match v with
    | .obj fields => some fields.length
    | _ => none
  else none

/-- The largest limit; larger ones mean the same. -/
def largestLimit : Int := twoPow 64 - 1

def limit? (w : Json) : Option Int :=
  match w with
  | .num (.integer n) => some n
  | .num (.float x) => if x.isWhole then some (min x.toInt largestLimit) else none
  | _ => none

def allDistinct : List Json → Bool
  | [] => true
  | v :: rest => !rest.any v.equal && allDistinct rest

/-- Compares a number with a keyword's number. -/
def compares (r : Number → Number → Bool) (w v : Json) : Bool :=
  match w, v with
  | .num limit, .num n => r n limit
  | _, _ => true

/-- Compares a count with a keyword's limit. -/
def counts (k : String) (r : Int → Int → Bool) (w v : Json) : Bool :=
  match limit? w, count? k v with
  | some limit, some n => r n limit
  | _, _ => true

/-- Whether a text is found to match a pattern somewhere. -/
def matchesPattern (w v : Json) : Bool :=
  match w, v with
  | .str p, .str s => (SchemaPattern.ofText? p).any fun q => q.finds s
  | _, _ => true

/-- The required names that an object lacks, in order. -/
def missing (w v : Json) : List String :=
  match v with
  | .obj fields => ((itemsOf w).filterMap Json.text?).filter fun k => (Entries.get? k fields).isNone
  | _ => []

/-- Whether a keyword without schemas inside holds of a value. -/
def holds (k : String) (w v : Json) : Bool :=
  match k with
  | "type" => (typeNames w).any fun t => hasType t v
  | "enum" => (itemsOf w).any v.equal
  | "minimum" => compares (fun n limit => !n.less limit) w v
  | "maximum" => compares (fun n limit => !limit.less n) w v
  | "exclusiveMinimum" => compares (fun n limit => limit.less n) w v
  | "exclusiveMaximum" => compares (fun n limit => n.less limit) w v
  | "minLength" => counts k (fun n limit => limit ≤ n) w v
  | "maxLength" => counts k (fun n limit => n ≤ limit) w v
  | "minItems" => counts k (fun n limit => limit ≤ n) w v
  | "maxItems" => counts k (fun n limit => n ≤ limit) w v
  | "minProperties" => counts k (fun n limit => limit ≤ n) w v
  | "maxProperties" => counts k (fun n limit => n ≤ limit) w v
  | "pattern" => matchesPattern w v
  | "uniqueItems" => w != .bool true || allDistinct (itemsOf v)
  | "required" => (missing w v).isEmpty
  | _ => true

end Assertion

namespace Schema

open Assertion

def propertyNames (siblings : List (String × Json)) : List String :=
  match Entries.get? "properties" siblings with
  | some (.obj ps) => Entries.keys ps
  | _ => []

/-- The entries of an object that are no properties of the schema. -/
def additionalFields (siblings : List (String × Json)) (v : Json) : List (String × Json) :=
  (fieldsOf v).filter fun e => !(propertyNames siblings).contains e.1

mutual
/-- Whether a schema accepts a value. -/
def accepts : Json → Json → Bool
  | .bool b, _ => b
  | .obj keywords, v => acceptsKeywords keywords keywords v
  | _, _ => true
termination_by structural s => s

/-- Whether each of some keywords of a schema holds; `siblings` are all its keywords. -/
def acceptsKeywords (siblings : List (String × Json)) : List (String × Json) → Json → Bool
  | [], _ => true
  | (k, w) :: rest, v =>
    (if k = "properties" then acceptsProperties w v
     else if k = "additionalProperties" then
       (additionalFields siblings v).all fun e => accepts w e.2
     else if k = "items" then
       match w with
       | .arr _ => acceptsPositions w (itemsOf v)
       | _ => (itemsOf v).all fun x => accepts w x
     else if k = "anyOf" then acceptsAny w v
     else holds k w v) && acceptsKeywords siblings rest v
termination_by structural ks => ks

/-- Whether each property accepts the value at its name, if there is one. -/
def acceptsProperties : Json → Json → Bool
  | .obj ps, v => acceptsFields ps v
  | _, _ => true
termination_by structural s => s

def acceptsFields : List (String × Json) → Json → Bool
  | [], _ => true
  | (k, s) :: rest, v =>
    (match v.field? k with
     | some x => accepts s x
     | none => true) && acceptsFields rest v
termination_by structural ps => ps

/-- Whether each schema of an array accepts the item at its position, if there is one. -/
def acceptsPositions : Json → List Json → Bool
  | .arr ss, vs => acceptsItems ss vs
  | _, _ => true
termination_by structural s => s

def acceptsItems : List Json → List Json → Bool
  | s :: ss, v :: vs => accepts s v && acceptsItems ss vs
  | _, _ => true
termination_by structural ss => ss

def acceptsAny : Json → Json → Bool
  | .arr ss, v => acceptsSome ss v
  | _, _ => true
termination_by structural s => s

def acceptsSome : List Json → Json → Bool
  | [], _ => false
  | s :: ss, v => accepts s v || acceptsSome ss v
termination_by structural ss => ss
end

end Schema

end VarSchema
