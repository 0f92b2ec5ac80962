import VarSchema.Yaml.Block
import VarSchema.Yaml.Tag

/-!
# Tokens of YAML texts

Indentation becomes tokens that open and close block collections. What turns out to be a key only at the
colon behind it is remembered as a `Candidate`, and its mark is put before it then. A candidate lies on one
line; one that stands where only a key can stand must find its colon.

* `Token` : a token; `Token.ofText?` : the tokens of a text, unless it is malformed;
* `Names` : the names of anchors and tags that are known at a place;
* `State.readToken` : reads one token; `State.run` : reads all of them.

An anchor is known by the number of names before it, and so is each alias of it.
-/

namespace VarSchema

namespace Yaml

inductive Token where
  /-- A line that starts with `%`. -/
  | directive
  /-- A line `---`. -/
  | documentStart
  /-- A line `...`. -/
  | documentEnd
  /-- Deeper items or keys begin. -/
  | blockSequence
  | blockMapping
  /-- The innermost block collection ends. -/
  | blockEnd
  /-- The dash before an item. -/
  | item
  /-- A key follows. -/
  | key
  /-- The colon before a value. -/
  | value
  | openSequence
  | closeSequence
  | openMapping
  | closeMapping
  | comma
  | anchor (id : Nat)
  | alias (id : Nat)
  | tag (tag : Tag)
  | scalar (style : Style) (text : String)

structure Names where
  /-- The numbers of the anchors. -/
  anchors : List (String × Nat)
  /-- The handles of tags that directives give. -/
  handles : Tag.Handles
  /-- Whether a directive gives the version. -/
  versioned : Bool

namespace Names

def none : Names := ⟨[], [], false⟩

/-- One more anchor, perhaps of a name that is known. -/
def addAnchor (ns : Names) (name : String) : Names :=
  { ns with anchors := (name, ns.anchors.length) :: ns.anchors.filter fun a => a.1 ≠ name }

/-- One more directive. The version is 1.1 or 1.2; nothing is said twice. -/
def addDirective? (ns : Names) : Directive → Option Names
  | .version major minor =>
    if ns.versioned || major ≠ 1 || (minor ≠ 1 && minor ≠ 2) then .none
    else some { ns with versioned := true }
  | .handle name bytes =>
    if (ns.handles.lookup name).isSome then .none
    else some { ns with handles := (name, bytes) :: ns.handles }

end Names

/-- What becomes a key if a colon follows. -/
structure Candidate where
  /-- The number of tokens before it. -/
  before : Nat
  position : Position
  /-- Nothing but a key can stand here. -/
  required : Bool

/-- The reader between two tokens. -/
structure State where
  rest : List Char
  position : Position
  /-- The tokens so far, the latest first. -/
  done : List Token
  /-- Their number. -/
  count : Nat
  /-- The columns of the open block collections, innermost first. -/
  indents : List Nat
  candidate : Option Candidate
  /-- The candidates outside each open flow collection, innermost first. -/
  outer : List (Option Candidate)
  /-- Whether a key may start here. -/
  keyAllowed : Bool
  names : Names

namespace State

def start (cs : List Char) : State := ⟨cs, ⟨0, 0, 0⟩, [], 0, [], none, [], true, .none⟩

def inFlow (s : State) : Bool := !s.outer.isEmpty

def push (s : State) (t : Token) : State := { s with done := t :: s.done, count := s.count + 1 }

/-- Puts tokens, the latest first, behind the first `before` ones. -/
def insert (s : State) (before : Nat) (ts : List Token) : State :=
  let later := s.count - before
  { s with
    done := s.done.take later ++ ts ++ s.done.drop later
    count := s.count + ts.length }

def skipTo (s : State) (rest : List Char) : State :=
  let skipped := s.rest.take (s.rest.length - rest.length)
  { s with rest := rest, position := skipped.foldl Position.after s.position }

def skip (s : State) : State :=
  match s.rest with
  | [] => s
  | c :: rest => { s with rest := rest, position := s.position.after c }

/-! ## Candidates -/

/-- A key has at most this many characters. -/
def maxKeyLength : Nat := 1024

/-- Whether a candidate can still become a key. -/
def isFresh (p : Position) (k : Candidate) : Bool :=
  p.line ≤ k.position.line && p.index ≤ k.position.index + maxKeyLength

/-- Forgets candidates that can no longer become keys; `none` if one of them had to. -/
def forgetStale (s : State) : Option State :=
  let stale := (s.candidate :: s.outer).filterMap id |>.filter fun k => !isFresh s.position k
  if stale.any Candidate.required then none
  else some { s with
    candidate := s.candidate.filter (isFresh s.position)
    outer := s.outer.map fun k => k.filter (isFresh s.position) }

/-- Forgets the candidate; `none` if it had to be a key. -/
def forget (s : State) : Option State :=
  match s.candidate with
  | some k => if k.required then none else some { s with candidate := none }
  | none => some s

def remember (s : State) : Option State :=
  if s.keyAllowed then
    s.forget.map fun s => { s with
      candidate := some ⟨s.count, s.position,
        !s.inFlow && s.indents.head? == some s.position.column⟩ }
  else some s

/-! ## Blocks -/

/-- Whether a column is deeper than the open block collections. -/
def isDeeper (s : State) (column : Nat) : Bool :=
  !s.inFlow && (match s.indents with
    | [] => true
    | i :: _ => decide (i < column))

/-- Opens a block collection at a column that is deeper, its token behind the first `before` ones. -/
def openBlock (s : State) (column before : Nat) (t : Token) : State :=
  if s.isDeeper column then { s.insert before [t] with indents := column :: s.indents } else s

/-- Closes the block collections deeper than a column, all of them if there is none. -/
def closeBlocks (s : State) (column : Option Nat) : State :=
  if s.inFlow then s
  else
    let isClosed (i : Nat) : Bool := column.all fun c => decide (c < i)
    let closed := s.indents.takeWhile isClosed
    { closed.foldl (fun s _ => s.push .blockEnd) s with
      indents := s.indents.dropWhile isClosed }

/-! ## Tokens -/

/-- A byte order mark, which may stand at the front of a line. -/
def isMark (c : Char) : Bool := c = '\uFEFF'

/-- Skips blanks, comments and line breaks. No tab stands before a key. -/
def skipBlanks (flow : Bool) :
    List Char → Position → (comment keyAllowed : Bool) → List Char × Position × Bool
  | [], p, _, keyAllowed => ([], p, keyAllowed)
  | c :: rest, p, comment, keyAllowed =>
    if isBreak c then skipBlanks flow rest (p.after c) false (keyAllowed || !flow)
    else if comment || c = ' ' || (c = '\t' && (flow || !keyAllowed)) || (isMark c && p.column == 0) then
      skipBlanks flow rest (p.after c) comment keyAllowed
    else if c = '#' then skipBlanks flow rest (p.after c) true keyAllowed
    else (c :: rest, p, keyAllowed)

/-- The reader at the next token, with the deeper block collections closed. -/
def approach (s : State) : Option State :=
  let (rest, p, keyAllowed) := skipBlanks s.inFlow s.rest s.position false s.keyAllowed
  (State.forgetStale { s with rest := rest, position := p, keyAllowed := keyAllowed }).map
    fun s => s.closeBlocks (some s.position.column)

def readDirective (s : State) : Option State := do
  let s ← (s.closeBlocks none).forget
  let (directive, rest) ← Directive.read? (s.rest.drop 1)
  let names ← s.names.addDirective? directive
  return { (s.skipTo (← Block.nextLine? rest)).push .directive with
    keyAllowed := false, names := names }

def readDocumentMark (s : State) (t : Token) : Option State :=
  (s.closeBlocks none).forget.map fun s =>
    { s.skip.skip.skip.push t with keyAllowed := false }

def readOpening (s : State) (t : Token) : Option State :=
  s.remember.map fun s =>
    { s.skip.push t with candidate := none, outer := s.candidate :: s.outer, keyAllowed := true }

def readClosing (s : State) (t : Token) : Option State :=
  s.forget.map fun s =>
    match s.outer with
    | [] => { s.skip.push t with keyAllowed := false }
    | k :: outer => { s.skip.push t with candidate := k, outer := outer, keyAllowed := false }

def readComma (s : State) : Option State :=
  s.forget.map fun s => { s.skip.push .comma with keyAllowed := true }

/-- The dash before an item. -/
def readItem (s : State) : Option State :=
  if s.inFlow || s.keyAllowed then
    (s.openBlock s.position.column s.count .blockSequence).forget.map fun s =>
      { s.skip.push .item with keyAllowed := true }
  else none

/-- The question mark before a key. -/
def readKey (s : State) : Option State :=
  if s.inFlow || s.keyAllowed then
    (s.openBlock s.position.column s.count .blockMapping).forget.map fun s =>
      { s.skip.push .key with keyAllowed := !s.inFlow }
  else none

/-- The colon before a value: the candidate becomes a key. -/
def readValue (s : State) : Option State :=
  match s.candidate with
  | some k =>
    let s := (s.insert k.before [.key]).openBlock k.position.column k.before .blockMapping
    some { s.skip.push .value with candidate := none, keyAllowed := false }
  | none =>
    if s.inFlow then some { s.skip.push .value with keyAllowed := false }
    else if s.keyAllowed then
      let s := s.openBlock s.position.column s.count .blockMapping
      some { s.skip.push .value with keyAllowed := true }
    else none

def endsAnchor : List Char → Bool
  | c :: rest => endsWord (c :: rest) || "?:,]\x7d%@\x60".contains c
  | [] => true

def readName (s : State) : Option (String × State) :=
  let name := (s.rest.drop 1).takeWhile Tag.isNameChar
  let rest := (s.rest.drop 1).dropWhile Tag.isNameChar
  if name.isEmpty || !endsAnchor rest then none
  else s.remember.map fun s => (String.ofList name, { s.skipTo rest with keyAllowed := false })

def readAnchor (s : State) : Option State :=
  s.readName.map fun (name, s) =>
    { s.push (.anchor s.names.anchors.length) with names := s.names.addAnchor name }

/-- An alias, whose anchor stands before it. -/
def readAlias (s : State) : Option State :=
  s.readName.bind fun (name, s) => (s.names.anchors.lookup name).map fun id => s.push (.alias id)

def endsTag (flow : Bool) (cs : List Char) : Bool := endsWord cs || (flow && cs.head? == some ',')

def readTag (s : State) : Option State := do
  let s ← s.remember
  let (tag, rest) ← Tag.read? (s.names.handles ++ Tag.Handles.initial) (s.rest.drop 1)
  if endsTag s.inFlow rest then
    some { (s.skipTo rest).push (.tag tag) with keyAllowed := false }
  else none

def readScalar (s : State) (style : Style) (read : State → Option Scanned) : Option State := do
  let s ← s.remember
  let x ← read s
  return { s.push (.scalar style x.text) with
    rest := x.rest, position := x.position, keyAllowed := x.broken }

/-- A block scalar, which is no key. -/
def readBlockScalar (s : State) (folded : Bool) : Option State := do
  let s ← s.forget
  let x ← Block.read? folded s.indents.head? (s.rest.drop 1) s.skip.position
  return { s.push (.scalar (if folded then .other else .literal) x.text) with
    rest := x.rest, position := x.position, keyAllowed := x.broken }

/-- The column that the lines of a plain scalar must reach. -/
def scalarIndent (s : State) : Nat :=
  match s.indents with
  | [] => 0
  | i :: _ => i + 1

/-- Characters that start no plain scalar. -/
def indicators : String := "-?:,[]\x7b\x7d#&*!|>'\"%@\x60"

def startsPlain (flow : Bool) (c : Char) (rest : List Char) : Bool :=
  if indicators.contains c then
    !endsWord rest && (c = '-' || (!flow && (c = '?' || c = ':')))
  else !isBlank c && !isBreak c

def readToken (s : State) : Option State :=
  match s.rest with
  | [] => some s
  | c :: rest =>
    if s.position.column == 0 && c = '%' then s.readDirective
    else if s.position.column == 0 && isDocumentMark s.rest then
      s.readDocumentMark (if c = '-' then .documentStart else .documentEnd)
    else if c = '[' then s.readOpening .openSequence
    else if c = '\x7b' then s.readOpening .openMapping
    else if c = ']' then s.readClosing .closeSequence
    else if c = '\x7d' then s.readClosing .closeMapping
    else if c = ',' then s.readComma
    else if c = '-' && endsWord rest then s.readItem
    else if c = '?' && (s.inFlow || endsWord rest) then s.readKey
    else if c = ':' && (s.inFlow || endsWord rest) then s.readValue
    else if c = '*' then s.readAlias
    else if c = '&' then s.readAnchor
    else if c = '!' then s.readTag
    else if (c = '|' || c = '>') && !s.inFlow then s.readBlockScalar (c == '>')
    else if c = '\'' || c = '"' then
      s.readScalar .other fun s => quoted? (c == '"') rest (s.position.after c) Gap.empty .none []
    else if startsPlain s.inFlow c rest then
      s.readScalar .plain fun s => plain? s.scalarIndent s.inFlow s.rest s.position Gap.empty []
    else none

def finish (s : State) : Option (List Token) :=
  (s.closeBlocks none).forget.map fun s => s.done.reverse

/-- Reads tokens to the end of the text. Each takes at least one character, so `fuel` beyond the length
of the text is enough. -/
def run : Nat → State → Option (List Token)
  | 0, _ => none
  | fuel + 1, s =>
    s.approach.bind fun s =>
      if s.rest.isEmpty then s.finish else s.readToken.bind (run fuel)

end State

/-! ## Texts -/

/-- Writes every line break that YAML knows as `\n`, except the two separators of Unicode. -/
def unifyBreaks : List Char → List Char
  | [] => []
  | '\r' :: '\n' :: rest => '\n' :: unifyBreaks rest
  | '\r' :: rest => '\n' :: unifyBreaks rest
  | '\u0085' :: rest => '\n' :: unifyBreaks rest
  | c :: rest => c :: unifyBreaks rest

def isPrintable (c : Char) : Bool :=
  c = '\t' || c = '\n' || c = '\r' || c = '\u0085' ||
    (0x20 ≤ c.toNat && c.toNat ≤ 0x7E) || (0xA0 ≤ c.toNat && c.toNat ≤ 0xFFFD) || 0x10000 ≤ c.toNat

def Token.ofText? (text : String) : Option (List Token) :=
  let cs := unifyBreaks text.toList
  if cs.all isPrintable then State.run (cs.length + 1) (State.start cs) else none

end Yaml

end VarSchema
