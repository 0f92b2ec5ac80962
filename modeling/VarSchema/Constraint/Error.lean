import VarSchema.Json.Printer
import VarSchema.Text.Quoted

/-!
# Errors of type constraints

* `StructureFault` : the ways in which a constraint has the wrong shape; `StructureFault.reason` : its
  wording;
* `TypeFault` : a wrong shape, or a kind that no constraint has;
* `TypeError` : a fault and where it was found; `TypeError.within` : the same error seen from the
  enclosing constraint; `TypeError.message` : its wording.
-/

namespace VarSchema

/-- A wrong shape. -/
inductive StructureFault where
  | notStringOrArray (found : Json)
  | kindNotString (found : Json)
  | emptyArray
  | elementArity (kind : String) (found : Nat)
  | tupleArity (found : Nat)
  | tupleElements (found : Json)
  | objectArity (found : Nat)
  | attributes (found : Json)
  | optionalNames (found : Json)
  | undeclaredOptional (name : String)
  /-- A fault in words. -/
  | described (reason : String)
deriving DecidableEq

def StructureFault.reason : StructureFault → String
  | .notStringOrArray v =>
    "type constraint must be a string or an array, found " ++ v.compact
  | .kindNotString v => "collection kind must be a string, found " ++ v.compact
  | .emptyArray => "empty type constraint array"
  | .elementArity kind n =>
    kind ++ " type must have exactly one element type, found " ++ toString n ++ " arguments"
  | .tupleArity n =>
    "tuple type must have exactly one element list, found " ++ toString n ++ " arguments"
  | .tupleElements v => "tuple elements must be an array, found " ++ v.compact
  | .objectArity n => "object type must have one or two arguments, found " ++ toString n
  | .attributes v => "object attributes must be a map, found " ++ v.compact
  | .optionalNames v =>
    "object optional attributes must be a list of strings, found " ++ v.compact
  | .undeclaredOptional name =>
    "optional attribute " ++ quoted name ++ " is not declared by the object"
  | .described reason => reason

inductive TypeFault where
  | structural (fault : StructureFault)
  | unknownKind (kind : String)
deriving DecidableEq

/-- A fault and the place of the constraint that has it: segments from the outermost, with slashes
between them; empty at the constraint itself. -/
structure TypeError where
  path : String
  fault : TypeFault
deriving DecidableEq

namespace TypeError

def structural (fault : StructureFault) : TypeError := ⟨"", .structural fault⟩

def unknownKind (kind : String) : TypeError := ⟨"", .unknownKind kind⟩

def joinPath (segment path : String) : String :=
  if path = "" then segment else segment ++ "/" ++ path

/-- The error seen from the constraint that holds this one at `segment`. -/
def within (segment : String) (e : TypeError) : TypeError :=
  { e with path := joinPath segment e.path }

def message (e : TypeError) : String :=
  let place := if e.path = "" then "" else " at " ++ e.path
  match e.fault with
  | .structural f => "structural type error" ++ place ++ ": " ++ f.reason
  | .unknownKind k => "unknown type constraint kind " ++ quoted k ++ place

end TypeError

end VarSchema
