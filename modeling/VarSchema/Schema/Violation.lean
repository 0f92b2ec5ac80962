import VarSchema.Json.Printer
import VarSchema.Schema.Pointer
import VarSchema.Schema.WellFormed

/-!
# Violations

* `Violation` : where a value breaks a schema, which keyword it breaks, and how; `Violation.variableName?` :
  the name of the top-level entry that holds the value;
* `Schema.violations` : the violations of a value in the order of the keywords. When undeclared
  properties are refused or have a schema, the entries of an object are checked in their own order, each
  by its property or as an undeclared one, and unexpected names come last;
* `Schema.report` : the wording of all violations.
-/

namespace VarSchema

/-- A keyword that a value breaks. -/
structure Violation where
  /-- The pointer to the value. -/
  instancePath : String
  /-- The pointer to the keyword. -/
  schemaPath : String
  message : String
deriving DecidableEq

namespace Violation

/-- The name of the top-level entry that holds the value. -/
def variableName? (v : Violation) : Option String := Pointer.first? v.instancePath

def line (v : Violation) : String :=
  "  " ++ (if v.instancePath = "" then "(root)" else v.instancePath) ++ ": " ++ v.message

def variableNames (vs : List Violation) : NameSet := NameSet.ofList (vs.filterMap variableName?)

def lines (vs : List Violation) : String := "\n".intercalate (vs.map line)

end Violation

namespace Schema

open Assertion

/-! ## Messages -/

def counted (n : Int) (singular plural : String) : String :=
  toString n ++ " " ++ if n = 1 then singular else plural

def countMessage (v w : Json) (verb singular plural : String) : String :=
  v.compact ++ " " ++ verb ++ " " ++ counted ((limit? w).getD 0) singular plural

def limitMessage (v w : Json) (relation : String) : String :=
  v.compact ++ " is " ++ relation ++ " of " ++ w.compact

def typeMessage (v w : Json) : String :=
  match typeNames w with
  | [t] => v.compact ++ " is not of type " ++ Json.quote t
  | ts => v.compact ++ " is not of types " ++
    ", ".intercalate ((knownTypes.filter ts.contains).map Json.quote)

/-- The message of a value that a schema without exceptions refuses. -/
def falseMessage (v : Json) : String := "False schema does not allow " ++ v.compact

/-- The limit that the search of a text for a pattern reaches. -/
def searchLimit? (w v : Json) : Option SearchLimit :=
  match w, v with
  | .str p, .str s =>
    match SchemaPattern.ofText? p with
    | some q =>
      match q.search s with
      | .error limit => some limit
      | .ok _ => none
    | none => none
  | _, _ => none

/-- The message of a text that a pattern does not match, or is not found to match within the limits. -/
def patternMessage (w v : Json) : String :=
  match searchLimit? w v with
  | some limit => limit.text
  | none => v.compact ++ " does not match \"" ++ (w.text?.getD "") ++ "\""

def message (k : String) (w v : Json) : String :=
  match k with
  | "type" => typeMessage v w
  | "enum" => v.compact ++ " is not one of " ++ w.compact
  | "minimum" => limitMessage v w "less than the minimum"
  | "maximum" => limitMessage v w "greater than the maximum"
  | "exclusiveMinimum" => limitMessage v w "less than or equal to the minimum"
  | "exclusiveMaximum" => limitMessage v w "greater than or equal to the maximum"
  | "minLength" => countMessage v w "is shorter than" "character" "characters"
  | "maxLength" => countMessage v w "is longer than" "character" "characters"
  | "minItems" => countMessage v w "has less than" "item" "items"
  | "maxItems" => countMessage v w "has more than" "item" "items"
  | "minProperties" => countMessage v w "has less than" "property" "properties"
  | "maxProperties" => countMessage v w "has more than" "property" "properties"
  | "pattern" => patternMessage w v
  | "uniqueItems" => v.compact ++ " has non-unique elements"
  | _ => falseMessage v

def unexpectedMessage (names : List String) : String :=
  "Additional properties are not allowed (" ++
    ", ".intercalate (names.map fun k => "'" ++ k ++ "'") ++
    (if names.length = 1 then " was" else " were") ++ " unexpected)"

def anyOfMessage (v : Json) : String :=
  v.compact ++ " is not valid under any of the schemas listed in the 'anyOf' keyword"

/-! ## Violations -/

def leafViolations (k : String) (w v : Json) (ip sp : String) : List Violation :=
  if k = "required" then
    (missing w v).map fun name => ⟨ip, sp, Json.quote name ++ " is a required property"⟩
  else if holds k w v then []
  else [⟨ip, sp, message k w v⟩]

/-- Whether undeclared properties are refused or have a schema of keywords. -/
def restrictsAdditional (siblings : List (String × Json)) : Bool :=
  match Entries.get? "additionalProperties" siblings with
  | some (.bool false) => true
  | some (.obj _) => true
  | _ => false

/-- The violation of unexpected names, or of the first value if no property is declared. -/
def unexpected (siblings : List (String × Json)) (v : Json) (ip sp : String) : List Violation :=
  match additionalFields siblings v with
  | [] => []
  | (k, x) :: rest =>
    [⟨ip, sp, if (Entries.get? "properties" siblings).isSome then
      unexpectedMessage (k :: rest.map Prod.fst) else falseMessage x⟩]

mutual
/-- The violations of a value at `ip` against a schema at `sp`. -/
def violationsAt : Json → Json → String → String → List Violation
  | .bool b, v, ip, sp => if b then [] else [⟨ip, sp, falseMessage v⟩]
  | .obj keywords, v, ip, sp =>
    keywordViolations keywords (declaredIn keywords v ip sp) keywords v ip sp
  | _, _, _, _ => []
termination_by structural s => s

/-- The violations of each declared property that the value has, by name. -/
def declaredIn : List (String × Json) → Json → String → String → List (String × List Violation)
  | [], _, _, _ => []
  | (k, w) :: rest, v, ip, sp =>
    if k = "properties" then declaredOf w v ip (Pointer.push sp k) else declaredIn rest v ip sp
termination_by structural ks => ks

def declaredOf : Json → Json → String → String → List (String × List Violation)
  | .obj ps, v, ip, sp => declaredFields ps v ip sp
  | _, _, _, _ => []
termination_by structural s => s

def declaredFields :
    List (String × Json) → Json → String → String → List (String × List Violation)
  | [], _, _, _ => []
  | (k, s) :: rest, v, ip, sp =>
    (match v.field? k with
     | some x => [(k, violationsAt s x (Pointer.push ip k) (Pointer.push sp k))]
     | none => []) ++ declaredFields rest v ip sp
termination_by structural ps => ps

/-- The violations of each keyword; `declared` are those of the declared properties. -/
def keywordViolations (siblings : List (String × Json)) (declared : List (String × List Violation)) :
    List (String × Json) → Json → String → String → List Violation
  | [], _, _, _ => []
  | (k, w) :: rest, v, ip, sp =>
    (if k = "properties" then
       if restrictsAdditional siblings then [] else declared.flatMap Prod.snd
     else if k = "additionalProperties" then
       if restrictsAdditional siblings then
         ((fieldsOf v).flatMap fun e =>
           match declared.lookup e.1 with
           | some vs => vs
           | none =>
             match w with
             | .bool _ => []
             | _ => violationsAt w e.2 (Pointer.push ip e.1) (Pointer.push sp k)) ++
         (match w with
          | .bool _ => unexpected siblings v ip (Pointer.push sp k)
          | _ => [])
       else []
     else if k = "items" then
       match w with
       | .arr _ => positionViolations w (itemsOf v) ip (Pointer.push sp k)
       | _ => (itemsOf v).zipIdx.flatMap fun (x, i) =>
         violationsAt w x (Pointer.push ip (toString i)) (Pointer.push sp k)
     else if k = "anyOf" then
       if acceptsAny w v then [] else [⟨ip, Pointer.push sp k, anyOfMessage v⟩]
     else leafViolations k w v ip (Pointer.push sp k)) ++
    keywordViolations siblings declared rest v ip sp
termination_by structural ks => ks

def positionViolations : Json → List Json → String → String → List Violation
  | .arr ss, vs, ip, sp => itemViolations ss 0 vs ip sp
  | _, _, _, _ => []
termination_by structural s => s

def itemViolations : List Json → Nat → List Json → String → String → List Violation
  | s :: ss, i, v :: vs, ip, sp =>
    violationsAt s v (Pointer.push ip (toString i)) (Pointer.push sp (toString i)) ++
      itemViolations ss (i + 1) vs ip sp
  | _, _, _, _, _ => []
termination_by structural ss => ss
end

def violations (schema v : Json) : List Violation := violationsAt schema v "" ""

def report? (vs : List Violation) : Option String :=
  if vs.isEmpty then none else some ("validation failed:\n" ++ Violation.lines vs)

end Schema

end VarSchema
