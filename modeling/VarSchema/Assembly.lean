import VarSchema.Rule.Basic
import VarSchema.Schema.Translation
import VarSchema.Variable

/-!
# Assembly of the root schema

* `Variable.toNode` : the schema of a variable: its type, its default, its conditions in order of
  declaration, its description, and the wrapper's type removed if the variable is nullable;
* `Diagnostic` : what was left out: a condition that no rule recognizes, or a variable whose type is
  malformed; `SchemaError` : why there is no schema;
* `Assembly.collect` : the properties of variables and what was left out, up to the first error;
* `Assembly.run` : the root schema of variables and what was left out of it.
-/

namespace VarSchema

/-- Why there is no schema. -/
inductive SchemaError where
  | malformedType (name : String) (error : TypeError)
  | noVariables
  | duplicateVariable (name : String)
deriving DecidableEq

def SchemaError.message : SchemaError → String
  | .malformedType name e => "variable \"" ++ name ++ "\": " ++ e.message
  | .noVariables => "no variables to translate (set allow_empty to produce an empty schema)"
  | .duplicateVariable name => "variable \"" ++ name ++ "\" is declared more than once"

/-- Something that was left out of a schema. -/
inductive Diagnostic where
  | conditionNotApplicable (name : String) (cause : NotApplicable)
  | variableSkipped (name : String) (cause : TypeError)

namespace Diagnostic

def name : Diagnostic → String
  | conditionNotApplicable name _ => name
  | variableSkipped name _ => name

def message : Diagnostic → String
  | conditionNotApplicable name cause =>
    "variable \"" ++ name ++ "\": " ++ cause.message ++ "\n" ++ cause.details
  | variableSkipped name cause => "variable \"" ++ name ++ "\" skipped: " ++ cause.message

end Diagnostic

/-! ## One variable -/

namespace Variable

def setIf (k : String) (v : Option Json) (n : Node) : Node :=
  match v with
  | some v => n.set k v
  | none => n

/-- Merges conditions one after the other; those that no rule recognizes change nothing. -/
def applyAll (name : String) : List Condition → Node → Node × List Diagnostic
  | [], n => (n, [])
  | c :: rest, n =>
    match n.apply name c with
    | .ok m => applyAll name rest m
    | .error cause =>
      let (m, ds) := applyAll name rest n
      (m, .conditionNotApplicable name cause :: ds)

/-- The schema of a variable, and the conditions left out. -/
def toNode (options : Options) (v : Variable) : Except TypeError (Node × List Diagnostic) := do
  let nullable := v.isNullable options.nullableDefault
  let type ← v.type.constraint
  let base ← type.translate v.name nullable options
  let (node, diagnostics) := applyAll v.name v.conditions (setIf "default" v.default base)
  let described := setIf "description" (v.description.map .str) node
  return (if nullable then described.strip else described, diagnostics)

end Variable

/-! ## The root -/

structure Assembly where
  schema : Node
  diagnostics : List Diagnostic

namespace Assembly

def dialect : String := "http://json-schema.org/draft-07/schema#"

/-- Root keywords that are generated; options cannot set them. -/
def reserved : List String := ["$schema", "type", "additionalProperties", "properties", "required"]

/-- The first name that repeats an earlier one. -/
def repeated? (seen : List String) : List String → Option String
  | [] => none
  | k :: rest => if seen.contains k then some k else repeated? (k :: seen) rest

/-- The properties and required names of the variables so far, and what was left out. -/
structure Parts where
  properties : KeyMap Json
  required : List String
  diagnostics : List Diagnostic

instance : Inhabited Parts := ⟨⟨KeyMap.empty, [], []⟩⟩

def Parts.add (options : Options) (p : Parts) (v : Variable) : Except SchemaError Parts :=
  if options.isIgnored v.name then .ok p
  else
    match v.toNode options with
    | .ok (node, diagnostics) =>
      .ok ⟨p.properties.insert v.name node.toJson,
        if options.requireAll || v.isRequired then p.required ++ [v.name] else p.required,
        p.diagnostics ++ diagnostics⟩
    | .error e =>
      match options.onTypeError with
      | .fail => .error (.malformedType v.name e)
      | .skip => .ok { p with diagnostics := p.diagnostics ++ [.variableSkipped v.name e] }

/-- Adds variables up to the first that has no schema, with the error of that one. -/
def Parts.addAll (options : Options) : List Variable → Parts → Parts × Option SchemaError
  | [], p => (p, none)
  | v :: rest, p =>
    match p.add options v with
    | .ok q => Parts.addAll options rest q
    | .error e => (p, some e)

/-- The parts of variables, and why there is no schema of them. -/
def collect (options : Options) (vs : List Variable) : Parts × Option SchemaError :=
  match repeated? [] (vs.map Variable.name) with
  | some name => (default, some (.duplicateVariable name))
  | none =>
    match Parts.addAll options vs default with
    | (p, some e) => (p, some e)
    | (p, none) =>
      (p, if p.properties.entries.isEmpty && !options.allowEmpty then some .noVariables else none)

/-- The options' own root keywords. -/
def extraKeywords (options : Options) : Entries Json :=
  options.rootProperties.entries.filter fun e => !reserved.contains e.1

/-- The root keywords of the options that are generated instead. -/
def refusedKeywords (options : Options) : List String :=
  options.rootProperties.keys.filter reserved.contains

def root (options : Options) (p : Parts) : Node :=
  let base := (extraKeywords options).foldl (fun n e => n.set e.1 e.2)
    (Node.empty.set "$schema" (.str dialect))
  (((base.set "type" (.str "object")).set
    "additionalProperties" (.bool options.allowAdditionalProperties)).set
    "properties" (.obj p.properties.entries)).set
    "required" (.arr (p.required.mergeSort.map .str))

def run (options : Options) (vs : List Variable) : Except SchemaError Assembly :=
  match collect options vs with
  | (_, some e) => .error e
  | (p, none) => .ok ⟨root options p, p.diagnostics⟩

end Assembly

end VarSchema
