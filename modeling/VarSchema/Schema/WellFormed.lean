import VarSchema.Schema.Acceptance
import VarSchema.Schema.Uri

/-!
# Well-formed schemas

* `Schema.isSubschema` : the values that are schemas: booleans, and objects in which each known keyword
  has a value of its form, down to every schema inside;
* `Schema.isWellFormed` : such a value that can also be used by itself, because the schema that it says to
  follow is at hand. Only such a schema is used to validate.
-/

namespace VarSchema

namespace Schema

/-- The names of the JSON types, in the order in which messages list them. -/
def knownTypes : List String :=
  ["array", "boolean", "integer", "null", "number", "object", "string"]

def distinctTexts? (w : Json) : Option (List String) :=
  match w with
  | .arr items =>
    match items.mapM Json.text? with
    | some ts => if ts.Nodup then some ts else none
    | none => none
  | _ => none

def isType (w : Json) : Bool :=
  match w with
  | .str t => knownTypes.contains t
  | w =>
    match distinctTexts? w with
    | some ts => !ts.isEmpty && ts.all knownTypes.contains
    | none => false

def isPattern (w : Json) : Bool :=
  match w with
  | .str p => (SchemaPattern.ofText? p).isSome
  | _ => false

/-- Whether a value is a reference to a resource, as far as `p` asks. -/
def isReference (p : UriReference → Bool) (w : Json) : Bool := (w.text?.bind UriReference.ofText?).any p

/-- Whether the value of a keyword without schemas inside has the form of that keyword. -/
def hasForm (k : String) (w : Json) : Bool :=
  if k ∈ ["title", "description", "$comment"] then w.text?.isSome
  else if k = "$schema" then isReference UriReference.isAbsolute w
  else if k = "$id" then isReference (fun _ => true) w
  else if k = "type" then isType w
  else if k = "enum" then w matches .arr _
  else if k ∈ ["minimum", "maximum", "exclusiveMinimum", "exclusiveMaximum"] then w.number?.isSome
  else if k ∈ ["minLength", "maxLength", "minItems", "maxItems", "minProperties", "maxProperties"] then
    (Assertion.limit? w).any (0 ≤ ·)
  else if k = "pattern" then isPattern w
  else if k = "uniqueItems" then w matches .bool _
  else if k = "required" then (distinctTexts? w).isSome
  else true

def hasItems : Json → Bool
  | .arr items => !items.isEmpty
  | _ => false

/-! ## Identification -/

def withoutSigns (s : String) : String :=
  String.ofList (s.toList.reverse.dropWhile (· = '#')).reverse

/-- The versions of the schema language that a schema inside another may follow. -/
def versions : List String :=
  ["https://json-schema.org/draft/2020-12/schema", "https://json-schema.org/draft/2019-09/schema",
    "http://json-schema.org/draft-07/schema", "http://json-schema.org/draft-06/schema",
    "http://json-schema.org/draft-04/schema"]

/-- Whether a schema inside another follows a version of the schema language, if it says what it follows. -/
def followsVersion (keywords : List (String × Json)) : Bool :=
  match (Entries.get? "$schema" keywords).bind Json.text? with
  | some s => versions.contains (withoutSigns s)
  | none => true

/-- What identifies a schema, unless it is a place within another. -/
def identifier? (keywords : List (String × Json)) : Option String :=
  match (Entries.get? "$id" keywords).bind Json.text? with
  | some s => if s.toList.head? = some '#' then none else some (withoutSigns s)
  | none => none

/-- Whether what identifies a schema is no place within another resource. -/
def isResource (id : String) : Bool := (UriReference.ofText? id).any fun u => u.fragment?.isNone

/-- Whether a schema to follow is at hand: a version of the schema language, or the schema itself; a schema that
is only named looks for none. -/
def isAtHand (id : Option String) (s : String) : Bool :=
  s.startsWith "https://json-schema.org/draft/" || s.startsWith "http://json-schema.org/draft-" ||
    id == some (withoutSigns s) || (id.bind UriReference.ofText?).any (UriReference.hasScheme "urn")

/-- Whether a schema by itself can be identified and what it follows is at hand. -/
def isIdentified (keywords : List (String × Json)) : Bool :=
  let id := identifier? keywords
  id.all isResource && ((Entries.get? "$schema" keywords).bind Json.text?).all (isAtHand id)

/-! ## Schemas -/

mutual
def isSubschema : Json → Bool
  | .bool _ => true
  | .obj keywords => followsVersion keywords && allKeywords keywords
  | _ => false
termination_by structural s => s

/-- Whether each keyword has a value of its form. -/
def allKeywords : List (String × Json) → Bool
  | [] => true
  | (k, w) :: rest =>
    (if k = "additionalProperties" then isSubschema w
     else if k = "items" then isSubschema w || (hasItems w && isList w)
     else if k = "anyOf" then hasItems w && isList w
     else if k = "properties" ∨ k = "definitions" then isMap w
     else hasForm k w) && allKeywords rest
termination_by structural ks => ks

def isList : Json → Bool
  | .arr ss => allItems ss
  | _ => false
termination_by structural s => s

def allItems : List Json → Bool
  | [] => true
  | s :: rest => isSubschema s && allItems rest
termination_by structural ss => ss

def isMap : Json → Bool
  | .obj ss => allFields ss
  | _ => false
termination_by structural s => s

def allFields : List (String × Json) → Bool
  | [] => true
  | (_, s) :: rest => isSubschema s && allFields rest
termination_by structural ss => ss
end

/-- Whether a value is a schema that can be used by itself. -/
def isWellFormed : Json → Bool
  | .bool _ => true
  | .obj keywords => isIdentified keywords && allKeywords keywords
  | _ => false

end Schema

end VarSchema
