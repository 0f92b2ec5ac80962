import VarSchema.Json.Basic

/-!
# Options of schema generation

* `TypeErrorPolicy` : what becomes of a variable whose type is malformed;
* `Options` : the choices, each with its default; `Options.isIgnored` : whether a variable is left out;
* `Options.ofJson?`, `Options.toJson` : the JSON form, an object whose keys are all known, or an array of
  the values in the order of the fields. What is absent has its default.
-/

namespace VarSchema

/-- What becomes of a variable whose type is malformed. -/
inductive TypeErrorPolicy where
  /-- No schema is generated. -/
  | fail
  /-- The variable is left out. -/
  | skip
deriving DecidableEq

structure Options where
  /-- Whether the root and every object type allow undeclared keys. -/
  allowAdditionalProperties : Bool
  /-- Whether every variable and every attribute is required. -/
  requireAll : Bool
  /-- Whether a variable that does not say so accepts null. -/
  nullableDefault : Bool
  /-- Whether a schema without variables is generated. -/
  allowEmpty : Bool
  ignoreVariables : List String
  /-- More keywords of the root. -/
  rootProperties : KeyMap Json
  onTypeError : TypeErrorPolicy

namespace Options

def standard : Options := ⟨true, false, false, false, [], KeyMap.empty, .fail⟩

instance : Inhabited Options := ⟨standard⟩

def isIgnored (o : Options) (name : String) : Bool := o.ignoreVariables.contains name

theorem isIgnored_iff {o : Options} {name : String} : o.isIgnored name = true ↔ name ∈ o.ignoreVariables :=
  List.contains_iff_mem

theorem isIgnored_eq_false_iff {o : Options} {name : String} : o.isIgnored name = false ↔ name ∉ o.ignoreVariables := by
  rw [← isIgnored_iff, Bool.not_eq_true]

end Options

/-! ## JSON form -/

/-- The values of a key, in the order of the entries. -/
def fieldValues (k : String) (fields : Entries Json) : List Json :=
  (fields.filter fun e => e.1 == k).map Prod.snd

/-- An optional field: absent, or present once and read by `read?`. -/
def optionalField (k : String) (read? : Json → Option β) (absent : β) (fields : Entries Json) :
    Option β :=
  match fieldValues k fields with
  | [] => some absent
  | [v] => read? v
  | _ => none

/-- A field that is present once. -/
def requiredField (k : String) (read? : Json → Option β) (fields : Entries Json) : Option β :=
  match fieldValues k fields with
  | [v] => read? v
  | _ => none

namespace Json

def toBool? : Json → Option Bool
  | .bool b => some b
  | _ => none

def toTexts? : Json → Option (List String)
  | .arr items => items.mapM text?
  | _ => none

/-- An object as a map of canonical values. -/
def toMap? : Json → Option (KeyMap Json)
  | .obj fields => some (KeyMap.ofList (canonicalFields fields))
  | _ => none

end Json

namespace TypeErrorPolicy

def name : TypeErrorPolicy → String
  | fail => "fail"
  | skip => "skip"

def ofName? (s : String) : Option TypeErrorPolicy := [fail, skip].find? fun p => p.name == s

/-- The policy of a JSON value: its name, or an object with the name as its only key and without a value. -/
def ofJson? : Json → Option TypeErrorPolicy
  | .str s => ofName? s
  | .obj [(s, .null)] => ofName? s
  | _ => none

end TypeErrorPolicy

namespace Options

/-- The keys of the JSON form, in the order of the fields. -/
def fieldNames : List String :=
  ["allow_additional_properties", "require_all", "nullable_default", "allow_empty",
   "ignore_variables", "root_properties", "on_type_error"]

def ofFields? (fields : Entries Json) : Option Options := do
  let additional ← optionalField "allow_additional_properties" Json.toBool? true fields
  let required ← optionalField "require_all" Json.toBool? false fields
  let nullable ← optionalField "nullable_default" Json.toBool? false fields
  let empty ← optionalField "allow_empty" Json.toBool? false fields
  let ignored ← optionalField "ignore_variables" Json.toTexts? [] fields
  let root ← optionalField "root_properties" Json.toMap? KeyMap.empty fields
  let policy ← optionalField "on_type_error" TypeErrorPolicy.ofJson? .fail fields
  return ⟨additional, required, nullable, empty, ignored, root, policy⟩

def ofJson? : Json → Option Options
  | .obj fields =>
    if fields.all fun e => fieldNames.contains e.1 then ofFields? fields else none
  | .arr values =>
    if values.length ≤ fieldNames.length then ofFields? (fieldNames.zip values) else none
  | _ => none

/-- The JSON form with every field, in key order. -/
def toJson (o : Options) : Json :=
  .obj [
    ("allow_additional_properties", .bool o.allowAdditionalProperties),
    ("allow_empty", .bool o.allowEmpty),
    ("ignore_variables", .arr (o.ignoreVariables.map .str)),
    ("nullable_default", .bool o.nullableDefault),
    ("on_type_error", .str o.onTypeError.name),
    ("require_all", .bool o.requireAll),
    ("root_properties", .obj o.rootProperties.entries)]

end Options

end VarSchema
