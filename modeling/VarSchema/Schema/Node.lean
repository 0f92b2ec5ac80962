import VarSchema.Json.Basic

/-!
# Schema nodes

* `Node` : a schema object under construction, keyword by keyword;
* `Node.set`, `Node.erase`, `Node.get?` : one keyword; `Node.typeName?` : the type, if it is one name;
  `Node.number?` : a keyword's number, read as a binary64;
* `Side`, `Side.ofKeyword?` : which keywords bound a range and on which side; `Side.tighter` : whether a
  bound narrows the range more than another;
* `Node.merge` : folds the keywords of one node into another. A numeric bound gives way only to a
  tighter one; every other keyword is replaced.
-/

namespace VarSchema

/-- A schema object under construction. -/
structure Node where
  keywords : KeyMap Json

namespace Node

/-- The schema that accepts every value. -/
def empty : Node := ⟨KeyMap.empty⟩

instance : Inhabited Node := ⟨empty⟩

def get? (n : Node) (k : String) : Option Json := n.keywords.get? k

def set (n : Node) (k : String) (v : Json) : Node := ⟨n.keywords.insert k v⟩

def erase (n : Node) (k : String) : Node := ⟨n.keywords.erase k⟩

def typed (t : String) : Node := empty.set "type" (.str t)

/-- The type, if it is one name. -/
def typeName? (n : Node) : Option String := (n.get? "type").bind Json.text?

/-- The binary64 reading of a keyword's number. -/
def number? (n : Node) (k : String) : Option Binary64 :=
  ((n.get? k).bind Json.number?).map Number.toBinary64

def names (n : Node) : List String := n.keywords.keys

def entries (n : Node) : Entries Json := n.keywords.entries

/-- The node of a list of entries: a later one replaces an earlier one of its keyword. -/
def ofEntries (es : Entries Json) : Node := ⟨KeyMap.ofList es⟩

def toJson (n : Node) : Json := .obj n.keywords.entries

def ofJson? : Json → Option Node
  | .obj fields => some (ofEntries fields)
  | _ => none

end Node

/-! ## Bounds -/

inductive Side where
  | lower
  | upper
deriving DecidableEq

namespace Side

/-- The side that a keyword bounds. -/
def ofKeyword? (k : String) : Option Side :=
  if k ∈ ["minimum", "exclusiveMinimum", "minItems", "minProperties", "minLength"] then some lower
  else if k ∈ ["maximum", "exclusiveMaximum", "maxItems", "maxProperties", "maxLength"] then
    some upper
  else none

/-- Whether `candidate` narrows a range more than `current`. -/
def tighter (side : Side) (current candidate : Binary64) : Bool :=
  match side with
  | lower => current.lt candidate
  | upper => candidate.lt current

def name : Side → String
  | lower => "lower"
  | upper => "upper"

end Side

/-! ## Merging -/

namespace Node

/-- Whether the node's bound at `k` stays when `v` is merged in. -/
def keeps (n : Node) (k : String) (v : Json) : Bool :=
  match Side.ofKeyword? k, n.number? k, v.number? with
  | some side, some current, some candidate => !side.tighter current candidate.toBinary64
  | _, _, _ => false

def mergeKeyword (n : Node) (k : String) (v : Json) : Node :=
  if n.keeps k v then n else n.set k v

/-- Merges the keywords of `delta`. -/
def merge (n delta : Node) : Node :=
  delta.entries.foldl (fun n e => n.mergeKeyword e.1 e.2) n

end Node

end VarSchema
