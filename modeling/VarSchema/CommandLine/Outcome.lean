import VarSchema.Assembly
import VarSchema.CommandLine.Arguments
import VarSchema.Document
import VarSchema.Schema.Violation

/-!
# What a command does

A command looks at files, decides what to print or to write, and only then acts.

* `Failure`, `Warning` : why a command fails, and what it warns of, with their wordings;
* `Action` : what is printed or written; `Outcome` : the warnings, and an action or a failure;
* `GenerateArgs.outcome`, `CheckArgs.outcome` : the outcome of a command, given what is found at each path.
-/

namespace VarSchema

namespace CommandLine

/-- Why a command fails. -/
inductive Failure where
  | load (error : LoadError)
  | outputIsDirectory (path : String)
  | outputExists (path : String)
  | noSchema (input : String) (error : SchemaError)
  | directoryNotMade (path : String) (fault : FileFault)
  | notWritten (path : String) (fault : FileFault)
  | malformedSchema (path : String)

/-- A malformed type is named once with its variable and once by itself. -/
def Failure.message : Failure → String
  | .load e => e.message
  | .outputIsDirectory path => "output path " ++ path ++ " is a directory"
  | .outputExists path => "output file " ++ path ++ " already exists; pass --overwrite to replace it"
  | .noSchema input e =>
    "failed to generate schema for " ++ input ++ ": " ++ e.message ++
      match e with
      | .malformedType _ cause => ": " ++ cause.message
      | _ => ""
  | .directoryNotMade path fault => "failed to create directory: " ++ path ++ ": " ++ fault.message
  | .notWritten path fault => "failed to write schema: " ++ path ++ ": " ++ fault.message
  | .malformedSchema path => "failed to compile schema " ++ path ++ ": validator build error"

/-- What a command warns of. -/
inductive Warning where
  /-- Something is left out of the schema. -/
  | leftOut (diagnostic : Diagnostic)
  /-- A root keyword of the options is generated instead. -/
  | refusedKeyword (keyword : String)
  | unusualOutput (path : String)

def Warning.message : Warning → String
  | .leftOut d => d.message
  | .refusedKeyword k => "root property \"" ++ k ++ "\" would replace a generated keyword"
  | .unusualOutput path => "output file " ++ path ++ " does not have a .json extension"

/-- What is done in the end. -/
inductive Action where
  | print (text : String) (exitCode : Nat)
  | write (path text : String)

structure Outcome where
  warnings : List Warning
  result : Except Failure Action

/-! ## Generating a schema -/

namespace GenerateArgs

/-- Options with the switches turned on; a switch turns nothing off. -/
def refine (a : GenerateArgs) (o : Options) : Options where
  allowAdditionalProperties := o.allowAdditionalProperties && !a.disallowAdditionalProperties
  requireAll := o.requireAll || a.requireAll
  nullableDefault := o.nullableDefault || a.nullableDefault
  allowEmpty := o.allowEmpty || a.allowEmpty
  ignoreVariables := o.ignoreVariables ++ a.ignored
  rootProperties := o.rootProperties
  onTypeError := if a.skipInvalid then .skip else o.onTypeError

/-- The options of the configuration and the switches. -/
def options (a : GenerateArgs) (found : String → Lookup) : Except LoadError Options :=
  match a.config with
  | none => .ok (a.refine Options.standard)
  | some path => (Document.loadOptions path (found path)).map a.refine

/-- Whether the output may be written, with the warning of an unusual name. -/
def checkOutput (a : GenerateArgs) (found : Lookup) : Except Failure (List Warning) :=
  if a.stdout then .ok []
  else if found = .directory then .error (.outputIsDirectory a.output)
  else if found.isPresent && !a.overwrite then .error (.outputExists a.output)
  else .ok (if Path.hasExtension a.output ["json"] then [] else [.unusualOutput a.output])

def render (schema : Node) : String := schema.toJson.pretty ++ "\n"

def assemble (a : GenerateArgs) (o : Options) (earlier : List Warning) (vs : List Variable) :
    Outcome :=
  let leftOut := (Assembly.collect o vs).1.diagnostics.map .leftOut
  match Assembly.run o vs with
  | .error e => ⟨earlier ++ leftOut, .error (.noSchema a.input e)⟩
  | .ok assembly =>
    let text := render assembly.schema
    ⟨earlier ++ leftOut ++ (Assembly.refusedKeywords o).map .refusedKeyword,
      .ok (if a.stdout then .print text 0 else .write a.output text)⟩

/-- The outcome: first the options, then the output, then the variables are looked at. -/
def outcome (a : GenerateArgs) (found : String → Lookup) : Outcome :=
  match a.options found with
  | .error e => ⟨[], .error (.load e)⟩
  | .ok o =>
    match a.checkOutput (found a.output) with
    | .error failure => ⟨[], .error failure⟩
    | .ok warnings =>
      match Document.loadVariables a.input (found a.input) with
      | .error e => ⟨warnings, .error (.load e)⟩
      | .ok file => a.assemble o warnings file.declarations

end GenerateArgs

/-! ## Checking values -/

namespace CheckArgs

def report (a : CheckArgs) (vs : List Violation) : String :=
  let names := (Violation.variableNames vs).toList
  "FAIL: " ++ a.values ++ " has " ++ toString vs.length ++ " violation(s) against " ++ a.schema ++ "\n" ++
    (if names.isEmpty then "" else "Variables with violations: " ++ ", ".intercalate names ++ "\n") ++
    Violation.lines vs ++ "\n"

def compare (a : CheckArgs) (schema values : Json) : Except Failure Action :=
  if Schema.isWellFormed schema then
    let vs := Schema.violations schema values
    .ok (if vs.isEmpty then .print ("OK: " ++ a.values ++ " conforms to " ++ a.schema ++ "\n") 0
      else .print (a.report vs) 1)
  else .error (.malformedSchema a.schema)

/-- The outcome: first the schema, then the values are looked at. -/
def outcome (a : CheckArgs) (found : String → Lookup) : Outcome :=
  match Document.loadValue a.schema (found a.schema), Document.loadValue a.values (found a.values) with
  | .error e, _ => ⟨[], .error (.load e)⟩
  | .ok _, .error e => ⟨[], .error (.load e)⟩
  | .ok schema, .ok values => ⟨[], a.compare schema values⟩

end CheckArgs

namespace Command

def paths : Command → List String
  | generate a => a.config.toList ++ [a.output, a.input]
  | check a => [a.schema, a.values]

def outcome (found : String → Lookup) : Command → Outcome
  | generate a => a.outcome found
  | check a => a.outcome found

end Command

end CommandLine

end VarSchema
