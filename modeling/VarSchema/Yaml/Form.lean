import VarSchema.Condition.Wire
import VarSchema.Form
import VarSchema.Yaml.Plain
import VarSchema.Yaml.Tree

/-!
# YAML trees as JSON values

A plain scalar can be a text or something else; what it is depends on the form of its place, and there on its
tag.

* `Form.ofScalar?` : the value of a scalar at a place;
* `Form.items?`, `Form.keys?` : the forms of the items and entries of a collection at a place;
* `Tree.read` : the value of a node; `Tree.toJson?` : a tree as a JSON value with entries in the order of the
  text.

Where a list, a map or a record is expected, an absent node is an empty one. Inside conditions a field may be
named by its number, and is written with its name here. An alias is followed only where its node is read, and
not without end.
-/

namespace VarSchema

open Yaml

/-! ## Scalars -/

namespace Form

/-- The value of a scalar where any value may stand. -/
def ofAnyScalar? (tag : Option Tag) (style : Style) (s : String) : Option Json :=
  match tag.map Tag.meaning with
  | some (.name _) => none
  | some .null => if Plain.isNullWord s then some .null else none
  | some .boolean => (Plain.bool? s).map .bool
  | some .whole => (Plain.whole? s.toList).bind Plain.ofWhole?
  | some .float => (Plain.float? s).map Plain.ofFloat
  | some .text => some (.str s)
  | some .nothing | none => if style = .plain then Plain.value? s else some (.str s)

/-- Whether a scalar may be a boolean. -/
def isFlag (tag : Option Tag) (style : Style) : Bool :=
  style = .plain || (style = .literal && tag.any fun t => t.meaning matches .boolean)

/-- Whether a scalar is null where something else may stand as well; `none` for one that says so in vain. -/
def isNull? (tag : Option Tag) (style : Style) (s : String) : Option Bool :=
  if style ≠ .plain then some false
  else
    match tag.map Tag.meaning with
    | none => some (Plain.isNull s)
    | some .null => if Plain.isNullWord s then some true else none
    | some _ => some false

def ofScalar? (tag : Option Tag) (style : Style) (s : String) : Form → Option Json
  | text => some (.str s)
  | choice =>
    match tag.map Tag.meaning with
    | some (.name n) => if style = .plain && Plain.isNull s then some (.str n) else none
    | _ => some (.str s)
  | flag => if isFlag tag style then (Plain.bool? s).map .bool else none
  | ignored => some .null
  | nullable form =>
    (isNull? tag style s).bind fun b => if b then some .null else form.ofScalar? tag style s
  | list _ => if style = .plain && s = "" then some (.arr []) else none
  | map | record _ => if style = .plain && s = "" then some (.obj []) else none
  | _ => ofAnyScalar? tag style s

end Form

/-! ## Aliases -/

namespace Yaml.Tree

/-- The anchored nodes with their numbers, the latest first. -/
abbrev Anchored := List (Nat × Tree)

def anchored (t : Tree) : Anchored := (t.nodes.filterMap fun n => n.anchor.map fun id => (id, n)).reverse

/-- The node that a node stands for. -/
def target? (anchored : Anchored) : Tree → Option Tree
  | .alias id => anchored.lookup id
  | t => some t

/-- The text of a scalar or of the one that an alias stands for. -/
def text? (anchored : Anchored) (t : Tree) : Option String :=
  (t.target? anchored).bind fun
    | .scalar _ _ s => some s
    | _ => none

/-- The size of a node without those inside it: a collection has a start and an end. -/
def weight : Tree → Nat
  | .alias _ | .scalar _ _ _ => 1
  | .sequence _ _ | .mapping _ _ => 2

/-- How often aliases may be followed. -/
def aliasLimit (t : Tree) : Nat := 100 * t.nodes.foldl (fun n u => n + u.weight) 0

end Yaml.Tree

/-! ## Collections -/

namespace Form

/-- Whether a local tag is refused here, on collections as on scalars. -/
def refusesLocalTag : Form → Bool
  | value | condition _ | conditions | comparison | constant | unused => true
  | _ => false

/-- Whether a collection with a tag may stand here. -/
def admits (tag : Option Tag) (form : Form) : Bool :=
  !(form.refusesLocalTag && tag.any fun t => t.meaning matches .name _)

def ofKind (nested : Bool) : Form := if nested then constant else text

/-- The form of each field of a condition of some kind. -/
def ofField (nested : Bool) (kind k : String) : Form :=
  if k = "kind" then ofKind nested
  else if !(Condition.fieldNames kind).contains k then unused
  else if ["lhs", "rhs", "target", "inner"].contains k then condition true
  else if ["args", "items"].contains k then conditions
  else if k = "op" then comparison
  else constant

def kindOf? (anchored : Tree.Anchored) (nested : Bool) (t : Tree) : Option String :=
  (t.target? anchored).bind fun
    | .scalar p style s => ((ofKind nested).ofScalar? p.tag style s).bind (Condition.kindOf? nested)
    | _ => none

def kindIn? (anchored : Tree.Anchored) (nested : Bool) (entries : List (Tree × Tree)) : Option String :=
  (entries.find? fun e => e.1.text? anchored == some "kind").bind fun e => kindOf? anchored nested e.2

/-- The forms of items; a place that holds no list has none. -/
def items? (anchored : Tree.Anchored) (items : List Tree) : Form → Option (Nat → Form)
  | value => some fun _ => value
  | constant => some fun _ => constant
  | unused => some fun _ => unused
  | list form => some fun _ => form
  | nullable form => form.items? anchored items
  | conditions => some fun _ => condition true
  | condition nested =>
    (items.head?.bind (kindOf? anchored nested)).map fun kind i =>
      match i with
      | 0 => ofKind nested
      | i + 1 => ((Condition.fieldNames kind)[i]?.map (ofField nested kind)).getD unused
  | _ => none

structure Keys where
  /-- The form of a key. -/
  key : Form
  /-- What a key names, which may be nothing that is known. -/
  name? : Json → Option (Option String)
  /-- The form of the value behind a name. -/
  value : Option String → Form

namespace Keys

def texts (value : String → Form) : Keys :=
  ⟨.text, fun v => v.text?.map some, fun k => k.elim .unused value⟩

/-- Keys that are texts, or numbers that stand for some names. -/
def named (names : List String) (value : String → Form) : Keys where
  key := .constant
  name?
    | .str s => some (some s)
    | .num (.integer n) => if 0 ≤ n then some names[n.toNat]? else none
    | _ => none
  value k := k.elim .unused value

/-- Keys of which each is only read. -/
def unused : Keys := ⟨.unused, fun _ => some none, fun _ => .unused⟩

end Keys

/-- The entries of a mapping; a place that holds no keys has none. -/
def keys? (anchored : Tree.Anchored) (entries : List (Tree × Tree)) : Form → Option Keys
  | value | map => some (.texts fun _ => value)
  | record fields => some (.texts fun k => (fields.lookup k).getD ignored)
  | nullable form => form.keys? anchored entries
  | constant => some ⟨constant, fun v => v.text?.map some, fun _ => constant⟩
  | unused => some .unused
  | comparison => some (.named (Comparison.all.map Comparison.symbol) fun _ => constant)
  | condition nested =>
    (kindIn? anchored nested entries).map fun kind =>
      .named (Condition.fieldNames kind) (ofField nested kind)
  | _ => none

end Form

/-! ## Trees -/

namespace Yaml.Tree

/-- Reading; the state is how often aliases may still be followed. -/
abbrev Reading := StateT Nat Option

/-- The node that a node stands for, if it may still be followed. -/
def follow (anchored : Anchored) : Tree → Reading Tree
  | .alias id => do
    let left ← get
    if left = 0 then failure
    set (left - 1)
    match anchored.lookup id with
    | some t => return t
    | none => failure
  | t => return t

/-- The values of items from position `i` on. -/
def readItems (inner : Form → Tree → Reading Json) (forms : Nat → Form) : Nat → List Tree → Reading (List Json)
  | _, [] => return []
  | i, t :: rest => return (← inner (forms i) t) :: (← readItems inner forms (i + 1) rest)

/-- The keys and values of entries; those that name nothing known are left out. -/
def readEntries (inner : Form → Tree → Reading Json) (keys : Form.Keys) :
    List (Tree × Tree) → Reading (List (String × Json))
  | [] => return []
  | (k, t) :: rest => do
    let name ← keys.name? (← inner keys.key k)
    let v ← inner (keys.value name) t
    let vs ← readEntries inner keys rest
    return (name.map fun k => (k, v)).toList ++ vs

/-- The value of a node; what is inside a collection is read by `inner`, if collections may be open at all. -/
def readNode (anchored : Anchored) (inner : Option (Form → Tree → Reading Json)) (form : Form) (t : Tree) :
    Reading Json := do
  if form.isIgnored then return .null
  match ← follow anchored t with
  | .alias _ => failure
  | .scalar p style s => form.ofScalar? p.tag style s
  | .sequence p items =>
    if !form.admits p.tag then failure
    return .arr (← readItems (← inner) (← form.items? anchored items) 0 items)
  | .mapping p entries =>
    if !form.admits p.tag then failure
    return .obj (← readEntries (← inner) (← form.keys? anchored entries) entries)

/-- The number of collections that may be open at once. -/
def maxDepth : Nat := 128

def read (anchored : Anchored) : Nat → Form → Tree → Reading Json
  | 0 => readNode anchored none
  | depth + 1 => readNode anchored (some (read anchored depth))

def toJson? (form : Form) (t : Tree) : Option Json :=
  (read t.anchored maxDepth form t).run t.aliasLimit |>.map Prod.fst

end Yaml.Tree

end VarSchema
