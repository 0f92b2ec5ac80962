import VarSchema.Schema.Acceptance

/-!
# Schemas of any keywords

`Schema.accepts` knows the keywords that generated schemas have. Here every keyword of the schema language has its
meaning, for schemas that are written by others.

* `Dialect` : what the language leaves open: formats, encodings and media types;
* `Schema.Part`, `Schema.Reading` : the value of a keyword, with what it accepts as a schema, and its parts;
* `Schema.demands` : what one keyword demands of a value beside its siblings; `Schema.meets` : what all of them do;
* `Schema.reading`, `Schema.admits` : the reading of a value, and which values a schema accepts. What a reference says
  is up to the document around the schema;
* `Schema.Throughout` : the keywords of a schema and of every schema inside are of a kind; `Schema.ReferenceFree` : none
  is a reference.
-/

namespace VarSchema

/-- What the schema language leaves open. -/
structure Dialect where
  /-- Whether a value is of a format. -/
  isOfFormat : String → Json → Bool
  /-- Whether a text is in an encoding. -/
  isEncoded : String → String → Bool
  /-- Whether a text is of a media type, perhaps in an encoding. -/
  isOfMedia : String → Option String → String → Bool

namespace Schema

open Assertion

/-- A value inside a schema, and which values it accepts if it is a schema itself. -/
structure Part where
  written : Json
  accepts : Json → Bool

/-- The value of a keyword, with the items of an array and the entries of an object. -/
structure Reading extends Part where
  items : List Part
  fields : Entries Part

/-- Whether a key is a property of a schema, by name or by pattern. -/
def isDeclared (sibling : String → Option Reading) (key : String) : Bool :=
  ((sibling "properties").any fun r => (Entries.keys r.fields).contains key) ||
    (sibling "patternProperties").any fun r =>
      (Entries.keys r.fields).any fun p => matchesPattern (.str p) (.str key)

/-- The number of the items for which a schema has schemas by position. -/
def positions? (sibling : String → Option Reading) : Option Nat :=
  (sibling "items").bind fun r =>
    match r.written with
    | .arr ss => some ss.length
    | _ => none

/-- What one keyword demands of a value, given the readings of its siblings. -/
def demands (d : Dialect) (sibling : String → Option Reading) (k : String) (r : Reading) (v : Json) : Bool :=
  match k with
  | "const" => v.equal r.written
  | "multipleOf" => compares (fun n unit => n.toUnits % unit.toUnits == 0) r.written v
  | "format" =>
    match r.written with
    | .str format => d.isOfFormat format v
    | _ => true
  | "contentEncoding" =>
    match r.written, v with
    | .str encoding, .str s => d.isEncoded encoding s
    | _, _ => true
  | "contentMediaType" =>
    match r.written, v with
    | .str media, .str s => d.isOfMedia media ((sibling "contentEncoding").bind fun e => e.written.text?) s
    | _, _ => true
  | "items" =>
    match r.written with
    | .arr _ => (r.items.zip (itemsOf v)).all fun e => e.1.accepts e.2
    | _ => (itemsOf v).all r.accepts
  | "additionalItems" =>
    match positions? sibling with
    | some n => ((itemsOf v).drop n).all r.accepts
    | none => true
  | "contains" =>
    match v with
    | .arr vs => vs.any r.accepts
    | _ => true
  | "properties" => r.fields.all fun e => (v.field? e.1).all e.2.accepts
  | "patternProperties" => r.fields.all fun e => (fieldsOf v).all fun f =>
      !matchesPattern (.str e.1) (.str f.1) || e.2.accepts f.2
  | "additionalProperties" => (fieldsOf v).all fun f => isDeclared sibling f.1 || r.accepts f.2
  | "propertyNames" => (fieldsOf v).all fun f => r.accepts (.str f.1)
  | "dependencies" => r.fields.all fun e => (v.field? e.1).isNone ||
      match e.2.written with
      | .arr _ => (missing e.2.written v).isEmpty
      | _ => e.2.accepts v
  | "allOf" => r.items.all fun s => s.accepts v
  | "anyOf" =>
    match r.written with
    | .arr _ => r.items.any fun s => s.accepts v
    | _ => true
  | "oneOf" =>
    match r.written with
    | .arr _ => r.items.countP (fun s => s.accepts v) == 1
    | _ => true
  | "not" => !r.accepts v
  | "if" => (sibling (if r.accepts v then "then" else "else")).all fun s => s.accepts v
  | _ => holds k r.written v

/-- Whether a value meets all keywords of a schema. A reference stands for itself alone. -/
def meets (d : Dialect) (refers : Json → Json → Bool) (keywords : Entries Reading) (v : Json) : Bool :=
  match Entries.get? "$ref" keywords with
  | some r => refers r.written v
  | none => keywords.all fun e => demands d (fun k => Entries.get? k keywords) e.1 e.2 v

mutual
/-- The reading of a value inside a schema; `refers` is what references say. -/
def reading (d : Dialect) (refers : Json → Json → Bool) : Json → Reading
  | .bool b => ⟨⟨.bool b, fun _ => b⟩, [], []⟩
  | .arr ss => ⟨⟨.arr ss, fun _ => true⟩, readItems d refers ss, []⟩
  | .obj es =>
    let keywords := readFields d refers es
    ⟨⟨.obj es, meets d refers keywords⟩, [], keywords.map fun e => (e.1, e.2.toPart)⟩
  | s => ⟨⟨s, fun _ => true⟩, [], []⟩
termination_by structural s => s

def readItems (d : Dialect) (refers : Json → Json → Bool) : List Json → List Part
  | [] => []
  | s :: ss => (reading d refers s).toPart :: readItems d refers ss
termination_by structural ss => ss

def readFields (d : Dialect) (refers : Json → Json → Bool) : List (String × Json) → Entries Reading
  | [] => []
  | (k, s) :: rest => (k, reading d refers s) :: readFields d refers rest
termination_by structural es => es
end

def admits (d : Dialect) (refers : Json → Json → Bool) (s : Json) : Json → Bool := (reading d refers s).accepts

/-! ## Schemas inside a schema -/

/-- The keywords whose value can be a schema. -/
def schemaKeywords : List String :=
  ["additionalItems", "additionalProperties", "contains", "else", "if", "items", "not", "propertyNames", "then"]

/-- The keywords whose value can be an array of schemas. -/
def listKeywords : List String := ["allOf", "anyOf", "items", "oneOf"]

/-- The keywords whose value can be an object of schemas. -/
def mapKeywords : List String := ["dependencies", "patternProperties", "properties"]

/-- The keywords of a schema and of every schema inside are of a kind. -/
inductive Throughout (p : Entries Json → Prop) : Json → Prop
  | plain {s : Json} (h : ∀ es, s ≠ .obj es) : Throughout p s
  | obj {es : Entries Json} (here : p es)
    (hschema : ∀ k w, (k, w) ∈ es → k ∈ schemaKeywords → Throughout p w)
    (hlist : ∀ k ss, (k, .arr ss) ∈ es → k ∈ listKeywords → ∀ s ∈ ss, Throughout p s)
    (hmap : ∀ k fs, (k, .obj fs) ∈ es → k ∈ mapKeywords → ∀ f ∈ fs, Throughout p f.2) :
    Throughout p (.obj es)

def ReferenceFree : Json → Prop := Throughout fun es => Entries.get? "$ref" es = none

end Schema

end VarSchema
