import VarSchema.Yaml.Token

/-!
# Trees of YAML texts

* `Tree` : scalars, sequences and mappings as written; what a plain scalar means is left open;
* `Tree.ofTokens?` : the tree of one document; `Tree.ofText?` : the tree of a text;
* `Tree.nodes` : the nodes of a tree, each before those inside it.

An absent node is an empty plain scalar. In a block mapping, items may stand at the column of their key.
-/

namespace VarSchema

namespace Yaml

/-- What stands before a node. -/
structure Properties where
  anchor : Option Nat
  tag : Option Tag

namespace Properties

def none : Properties := ⟨.none, .none⟩

def isEmpty (p : Properties) : Bool := p.anchor.isNone && p.tag.isNone

/-- The properties that come first, an anchor and a tag in any order, and what follows them. -/
def read : List Token → Properties × List Token
  | .anchor id :: .tag t :: rest => (⟨some id, some t⟩, rest)
  | .tag t :: .anchor id :: rest => (⟨some id, some t⟩, rest)
  | .anchor id :: rest => (⟨some id, .none⟩, rest)
  | .tag t :: rest => (⟨.none, some t⟩, rest)
  | ts => (none, ts)

/-- The properties of a scalar that is written: a bare tag says nothing. -/
def ofScalar (p : Properties) : Properties := { p with tag := p.tag.filter fun t => t ≠ Tag.bare }

end Properties

/-- A YAML document as written. -/
inductive Tree where
  /-- The node of an anchor. -/
  | alias (id : Nat)
  | scalar (properties : Properties) (style : Style) (text : String)
  | sequence (properties : Properties) (items : List Tree)
  | mapping (properties : Properties) (entries : List (Tree × Tree))

namespace Tree

/-- A node of which only the properties are written. -/
def bare (p : Properties) : Tree := .scalar p .plain ""

def absent : Tree := bare .none

instance : Inhabited Tree := ⟨absent⟩

def anchor : Tree → Option Nat
  | .alias _ => none
  | .scalar p _ _ | .sequence p _ | .mapping p _ => p.anchor

mutual
/-- The nodes of a tree in the order in which they start, and `later` ones. -/
def nodesBefore : Tree → List Tree → List Tree
  | .alias id, later => .alias id :: later
  | .scalar p style text, later => .scalar p style text :: later
  | .sequence p items, later => .sequence p items :: nodesOfItems items later
  | .mapping p entries, later => .mapping p entries :: nodesOfEntries entries later
termination_by structural t => t

def nodesOfItems : List Tree → List Tree → List Tree
  | [], later => later
  | t :: rest, later => nodesBefore t (nodesOfItems rest later)
termination_by structural ts => ts

def nodesOfEntries : List (Tree × Tree) → List Tree → List Tree
  | [], later => later
  | (k, t) :: rest, later => nodesBefore k (nodesBefore t (nodesOfEntries rest later))
termination_by structural ts => ts
end

def nodes (t : Tree) : List Tree := nodesBefore t []

inductive Place where
  /-- An item of a block sequence, or the document. -/
  | block
  /-- A key or value of a block mapping, where items need no deeper column. -/
  | entry
  | flow

def endsItem : List Token → Bool
  | .item :: _ | .blockEnd :: _ => true
  | _ => false

def endsEntry : List Token → Bool
  | .key :: _ | .value :: _ | .blockEnd :: _ => true
  | _ => false

def endsFlowItem : List Token → Bool
  | .comma :: _ | .closeSequence :: _ => true
  | _ => false

def endsFlowEntry : List Token → Bool
  | .comma :: _ | .closeMapping :: _ => true
  | _ => false

def endsFlowKey : List Token → Bool
  | .value :: _ => true
  | ts => endsFlowEntry ts

/-- What stands behind the mark of a key without a node, if it can. The colon, the comma or the end of the
sequence that says so belongs to the key. -/
def afterBareKey? : List Token → Option (List Token)
  | .value :: rest | .comma :: rest | .closeSequence :: rest => some rest
  | _ => none

/-- The tokens behind a comma, which the first item or entry does not need. -/
def afterComma (first : Bool) (ts : List Token) : Option (List Token) :=
  if first then some ts
  else
    match ts with
    | .comma :: rest => some rest
    | _ => none

def sequenceOf (p : Properties) (read : Option (List Tree × List Token)) : Option (Tree × List Token) :=
  read.map fun (items, rest) => (.sequence p items, rest)

def mappingOf (p : Properties) (read : Option (List (Tree × Tree) × List Token)) :
    Option (Tree × List Token) :=
  read.map fun (entries, rest) => (.mapping p entries, rest)

mutual
def node? : Nat → Place → List Token → Option (Tree × List Token)
  | 0, _, _ => none
  | fuel + 1, place, ts =>
    match ts with
    | .alias id :: rest => some (.alias id, rest)
    | _ =>
      let (p, ts) := Properties.read ts
      match ts, place with
      | .scalar style text :: rest, _ => some (.scalar p.ofScalar style text, rest)
      | .openSequence :: rest, _ => sequenceOf p (flowItems? fuel true rest [])
      | .openMapping :: rest, _ => mappingOf p (flowEntries? fuel true rest [])
      | .item :: _, .entry => sequenceOf p (looseItems? fuel ts [])
      | .blockSequence :: rest, .block | .blockSequence :: rest, .entry =>
        sequenceOf p (blockItems? fuel rest [])
      | .blockMapping :: rest, .block | .blockMapping :: rest, .entry =>
        mappingOf p (blockEntries? fuel rest [])
      | _, _ => if p.isEmpty then none else some (bare p, ts)

def blockItems? : Nat → List Token → List Tree → Option (List Tree × List Token)
  | 0, _, _ => none
  | fuel + 1, ts, done =>
    match ts with
    | .blockEnd :: rest => some (done.reverse, rest)
    | .item :: rest =>
      if endsItem rest then blockItems? fuel rest (absent :: done)
      else (node? fuel .block rest).bind fun (t, rest) => blockItems? fuel rest (t :: done)
    | _ => none

/-- Items at the column of their key, up to what is no item. -/
def looseItems? : Nat → List Token → List Tree → Option (List Tree × List Token)
  | 0, _, _ => none
  | fuel + 1, ts, done =>
    match ts with
    | .item :: rest =>
      if endsItem rest || endsEntry rest then looseItems? fuel rest (absent :: done)
      else (node? fuel .block rest).bind fun (t, rest) => looseItems? fuel rest (t :: done)
    | _ => some (done.reverse, ts)

def blockEntries? : Nat → List Token → List (Tree × Tree) → Option (List (Tree × Tree) × List Token)
  | 0, _, _ => none
  | fuel + 1, ts, done =>
    match ts with
    | .blockEnd :: rest => some (done.reverse, rest)
    | .key :: rest =>
      (if endsEntry rest then some (absent, rest) else node? fuel .entry rest).bind fun (k, rest) =>
        (value? fuel .entry endsEntry rest).bind fun (v, rest) =>
          blockEntries? fuel rest ((k, v) :: done)
    | _ => none

/-- The items of a flow sequence up to its end; a key makes a mapping of one entry. -/
def flowItems? : Nat → Bool → List Token → List Tree → Option (List Tree × List Token)
  | 0, _, _, _ => none
  | fuel + 1, first, ts, done =>
    match ts with
    | .closeSequence :: rest => some (done.reverse, rest)
    | _ =>
      (afterComma first ts).bind fun ts =>
        match ts with
        | .closeSequence :: rest => some (done.reverse, rest)
        | .key :: rest =>
          (match afterBareKey? rest with
           | some rest => some (absent, rest)
           | none => node? fuel .flow rest).bind fun (k, rest) =>
            (value? fuel .flow endsFlowItem rest).bind fun (v, rest) =>
              flowItems? fuel false rest (.mapping .none [(k, v)] :: done)
        | _ => (node? fuel .flow ts).bind fun (t, rest) => flowItems? fuel false rest (t :: done)

/-- The entries of a flow mapping up to its end; a node that is no key has no value. -/
def flowEntries? :
    Nat → Bool → List Token → List (Tree × Tree) → Option (List (Tree × Tree) × List Token)
  | 0, _, _, _ => none
  | fuel + 1, first, ts, done =>
    match ts with
    | .closeMapping :: rest => some (done.reverse, rest)
    | _ =>
      (afterComma first ts).bind fun ts =>
        match ts with
        | .closeMapping :: rest => some (done.reverse, rest)
        | .key :: rest =>
          (if endsFlowKey rest then some (absent, rest) else node? fuel .flow rest).bind fun (k, rest) =>
            (value? fuel .flow endsFlowEntry rest).bind fun (v, rest) =>
              flowEntries? fuel false rest ((k, v) :: done)
        | _ => (node? fuel .flow ts).bind fun (k, rest) =>
          flowEntries? fuel false rest ((k, absent) :: done)

/-- The value of an entry, if there is a colon and something behind it. -/
def value? : Nat → Place → (List Token → Bool) → List Token → Option (Tree × List Token)
  | 0, _, _, _ => none
  | fuel + 1, place, ends, ts =>
    match ts with
    | .value :: rest => if ends rest then some (absent, rest) else node? fuel place rest
    | _ => some (absent, ts)
end

/-- Whether nothing stands between the marks of a document. -/
def isEmptyDocument : List Token → Bool
  | [] | .directive :: _ | .documentStart :: _ | .documentEnd :: _ => true
  | _ => false

/-- Whether the only document ends here. -/
def endsText (ts : List Token) : Bool :=
  match ts.dropWhile fun t => t matches .documentEnd with
  | [] => true
  | _ => false

/-- The tree of the tokens of one document, which starts with a mark if directives stand before it. Between
two tokens, at most three calls take none. -/
def ofTokens? (ts : List Token) : Option Tree :=
  let fuel := 3 * ts.length + 3
  let read := match ts.dropWhile fun t => t matches .directive, ts with
    | [], [] => some (absent, [])
    | .documentStart :: rest, _ =>
      if isEmptyDocument rest then some (absent, rest) else node? fuel .block rest
    | _, .directive :: _ => none
    | _, _ => node? fuel .block ts
  read.bind fun (t, rest) => if endsText rest then some t else none

def ofText? (text : String) : Option Tree := (Token.ofText? text).bind ofTokens?

end Tree

end Yaml

end VarSchema
