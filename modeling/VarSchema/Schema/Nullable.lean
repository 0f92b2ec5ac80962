import VarSchema.Schema.Node

/-!
# Schemas that also accept null

* `Node.wrap` : a node that accepts null or what the inner node accepts, offered as two branches. While
  conditions are applied the wrapper carries the inner type, by which they are matched;
* `Node.strip` : removes that type from a wrapper, since it would refuse null;
* `Node.isWrapped` : the node offers a branch of type null; `Node.admitsNull` : the nodes that `wrap`
  leaves as they are.
-/

namespace VarSchema

namespace Node

def nullBranch : Json := .obj [("title", .str "null"), ("type", .str "null")]

def isNullBranch (branch : Json) : Bool :=
  (branch.field? "type").bind Json.text? == some "null"

/-- Whether one of the node's branches has type null. -/
def isWrapped (n : Node) : Bool :=
  match n.get? "anyOf" with
  | some (.arr branches) => branches.any isNullBranch
  | _ => false

/-- Keywords that only describe. -/
def annotations : List String := ["title", "description", "default"]

/-- Whether the node is a wrapper, has type null or asserts nothing. -/
def admitsNull (n : Node) : Bool :=
  n.isWrapped || n.typeName? == some "null" || n.names.all annotations.contains

/-- The node, or null. -/
def wrap (name : String) (inner : Node) : Node :=
  if inner.admitsNull then inner
  else
    let titled := match inner.typeName? with
      | some t => inner.set "title" (.str t)
      | none => inner
    let outer := (empty.set "title" (.str (name ++ ": Select a type"))).set "anyOf"
      (.arr [nullBranch, titled.toJson])
    match inner.typeName? with
    | some t => outer.set "type" (.str t)
    | none => outer

/-- The node without the type that a wrapper carries. -/
def strip (n : Node) : Node := if n.isWrapped then n.erase "type" else n

end Node

end VarSchema
