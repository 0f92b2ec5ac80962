import VarSchema.FileSystem
import VarSchema.Json.Reader
import VarSchema.Variable
import VarSchema.Yaml.Form

/-!
# Documents

A document is JSON, or YAML if the extension of its file says so.

* `Document.isYaml` : whether it is YAML; `Document.read?` : its value as written, of some form;
* `LoadError` : why a document is not loaded; `LoadError.message` : its wording;
* `Document.loadVariables`, `Document.loadOptions`, `Document.loadValue` : a variable file, options or any
  value from what is found at a path.
-/

namespace VarSchema

/-- Why a document is not loaded. -/
inductive LoadError where
  | unreadable (path : String) (fault : FileFault)
  /-- The text is malformed, or its value is not what it should be. -/
  | undecodable (path : String) (yaml : Bool)
  | invalidConfig (path : String) (cause : LoadError)
deriving DecidableEq

def LoadError.message : LoadError → String
  | .unreadable path fault => "failed to read " ++ path ++ ": " ++ fault.message
  | .undecodable path yaml =>
    "failed to parse " ++ (if yaml then "YAML" else "JSON") ++ " in " ++ path
  | .invalidConfig path cause => "invalid config file " ++ path ++ ": " ++ cause.message

def Variable.form : Form := .record [
  ("name", .text), ("type", .value), ("nullable", .nullable .flag), ("default", .value),
  ("description", .nullable .text), ("conditions", .list (.condition false))]

def VariableFile.form : Form := .record [("variables", .list Variable.form)]

def Options.form : Form := .record [
  ("allow_additional_properties", .flag), ("require_all", .flag), ("nullable_default", .flag),
  ("allow_empty", .flag), ("ignore_variables", .list .text), ("root_properties", .map),
  ("on_type_error", .choice)]

namespace Document

def isYaml (path : String) : Bool := Path.hasExtension path ["yaml", "yml"]

/-- The value of a text as written, repeated keys and all. -/
def read? (yaml : Bool) (form : Form) (text : String) : Option Json :=
  if yaml then (Yaml.Tree.ofText? text).bind (Yaml.Tree.toJson? form) else Json.read? form text

/-- A document of some form, from what is found at its path. -/
def load (form : Form) (decode? : Json → Option α) (path : String) (found : Lookup) :
    Except LoadError α :=
  match found.text with
  | .error fault => .error (.unreadable path fault)
  | .ok text =>
    match (read? (isYaml path) form text).bind decode? with
    | none => .error (.undecodable path (isYaml path))
    | some a => .ok a

def loadVariables (path : String) (found : Lookup) : Except LoadError VariableFile :=
  load VariableFile.form VariableFile.ofJson? path found

def loadOptions (path : String) (found : Lookup) : Except LoadError Options :=
  (load Options.form Options.ofJson? path found).mapError (.invalidConfig path)

/-- Any value, of repeated keys the last one staying. -/
def loadValue (path : String) (found : Lookup) : Except LoadError Json :=
  load .value (fun v => some v.canonical) path found

end Document

end VarSchema
