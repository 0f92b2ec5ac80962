import VarSchema.Condition.Wire
import VarSchema.Constraint.Wire

/-!
# Variables

* `DeclaredType` : a variable's type as declared; a malformed one is kept with its error, so that it
  concerns only its variable;
* `Variable` : a name, a type, and optionally a nullability, a default, a description and conditions;
* `VariableFile` : the variables of a module;
* `Variable.ofJson?`, `Variable.toJson`, `VariableFile.ofJson?`, `VariableFile.toJson` : the JSON forms,
  objects with known keys or arrays of the fields in order.
-/

namespace VarSchema

inductive DeclaredType where
  | valid (type : Constraint)
  /-- A value that is no type, with the error of reading it. -/
  | malformed (raw : Json) (error : TypeError)
deriving DecidableEq

namespace DeclaredType

def ofJson (raw : Json) : DeclaredType :=
  match Constraint.ofJson raw with
  | .ok t => .valid t
  | .error e => .malformed raw e

/-- The constraint, or the error of a malformed type. -/
def constraint : DeclaredType → Except TypeError Constraint
  | .valid t => .ok t
  | .malformed _ e => .error e

/-- The JSON form; a malformed type is written as it was read. -/
def toJson : DeclaredType → Json
  | .valid t => t.toJson
  | .malformed raw _ => raw

/-- The type as a configuration writes it. -/
def display : DeclaredType → String
  | .valid t => t.display
  | .malformed raw _ => "<malformed " ++ raw.compact ++ ">"

end DeclaredType

structure Variable where
  name : String
  type : DeclaredType
  /-- Whether null is accepted; absent, the options decide. -/
  nullable : Option Bool
  /-- The default; null is a default too. -/
  default : Option Json
  description : Option String
  /-- The conditions in order of declaration. -/
  conditions : List Condition
deriving DecidableEq

namespace Variable

def isRequired (v : Variable) : Bool := v.default.isNone

theorem isRequired_iff {v : Variable} : v.isRequired = true ↔ v.default = none := Option.isNone_iff_eq_none

def isNullable (v : Variable) (nullableDefault : Bool) : Bool := v.nullable.getD nullableDefault

def fieldNames : List String :=
  ["name", "type", "nullable", "default", "description", "conditions"]

/-- A value that may be null instead of absent. -/
def orNull (read? : Json → Option β) : Json → Option (Option β)
  | .null => some none
  | v => (read? v).map some

def ofFields? (fields : Entries Json) : Option Variable := do
  let name ← requiredField "name" Json.text? fields
  let type ← optionalField "type" (fun v => some (DeclaredType.ofJson v.canonical))
    (.valid .any) fields
  let nullable ← optionalField "nullable" (orNull Json.toBool?) none fields
  let default ← optionalField "default" (fun v => some (some v.canonical)) none fields
  let description ← optionalField "description" (orNull Json.text?) none fields
  let conditions ← optionalField "conditions" Condition.ofArray? [] fields
  return ⟨name, type, nullable, default, description, conditions⟩

def ofJson? : Json → Option Variable
  | .obj fields => ofFields? fields
  | .arr values =>
    if values.length ≤ fieldNames.length then ofFields? (fieldNames.zip values) else none
  | _ => none

def fieldOf (k : String) (v : Option Json) : Entries Json := (v.map fun v => (k, v)).toList

/-- The JSON form: what is absent is left out, as are conditions if there are none. -/
def toJson (v : Variable) : Json :=
  .obj (fieldOf "conditions"
      (if v.conditions.isEmpty then none else some (.arr (Condition.toItems v.conditions))) ++
    fieldOf "default" v.default ++
    fieldOf "description" (v.description.map .str) ++
    [("name", .str v.name)] ++
    fieldOf "nullable" (v.nullable.map .bool) ++
    [("type", v.type.toJson)])

end Variable

structure VariableFile where
  declarations : List Variable
deriving DecidableEq

namespace VariableFile

def declarations? : Json → Option (List Variable)
  | .arr items => items.mapM Variable.ofJson?
  | _ => none

/-- The file of a JSON value; without variables if it names none. -/
def ofJson? : Json → Option VariableFile
  | .obj fields => (optionalField "variables" declarations? [] fields).map VariableFile.mk
  | .arr [] => some ⟨[]⟩
  | .arr [v] => (declarations? v).map VariableFile.mk
  | _ => none

def toJson (f : VariableFile) : Json := .obj [("variables", .arr (f.declarations.map Variable.toJson))]

end VariableFile

end VarSchema
