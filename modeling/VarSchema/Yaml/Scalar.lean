import VarSchema.Text.Digit

/-!
# Scalars of YAML texts

* `Position` : a place in a text; `isBlank`, `isBreak`, `isDocumentMark` : what separates;
* `Gap` : blanks and line breaks inside a scalar; `Gap.folded` : what they stand for. Blanks within a line
  stay, a single line break is a blank, and of several line breaks the first goes;
* `Style` : how a scalar is written;
* `plain?`, `quoted?` : the scalar at the front of a text. A plain one ends before `: `, a comment, a line
  that is not indented enough or, in a flow collection, an indicator.
-/

namespace VarSchema

namespace Yaml

structure Position where
  line : Nat
  column : Nat
  index : Nat

def isBlank (c : Char) : Bool := c = ' ' || c = '\t'

/-- A line break; the other spellings of `\n` are gone before. -/
def isBreak (c : Char) : Bool := c = '\n' || c = '\u2028' || c = '\u2029'

def endsWord : List Char → Bool
  | [] => true
  | c :: _ => isBlank c || isBreak c

/-- A document starts or ends here, if this is the front of a line. -/
def isDocumentMark : List Char → Bool
  | '-' :: '-' :: '-' :: rest => endsWord rest
  | '.' :: '.' :: '.' :: rest => endsWord rest
  | _ => false

def Position.after (p : Position) (c : Char) : Position :=
  if isBreak c then ⟨p.line + 1, 0, p.index + 1⟩ else ⟨p.line, p.column + 1, p.index + 1⟩

/-! ## Folding -/

/-- Blanks and line breaks since the last other character of a scalar, the latest first. -/
structure Gap where
  /-- A backslash escapes the first line break. -/
  escaped : Bool
  /-- Blanks of the first line. -/
  blanks : List Char
  breaks : List Char

namespace Gap

def empty : Gap := ⟨false, [], []⟩

/-- A line break behind a backslash. -/
def escapedBreak : Gap := ⟨true, [], []⟩

def isBroken (g : Gap) : Bool := g.escaped || !g.breaks.isEmpty

def isEmpty (g : Gap) : Bool := !g.isBroken && g.blanks.isEmpty

/-- One more blank or line break. Blanks at the front of a line do not count. -/
def add (g : Gap) (c : Char) : Gap :=
  if isBreak c then { g with blanks := [], breaks := c :: g.breaks }
  else if g.isBroken then g
  else { g with blanks := c :: g.blanks }

/-- What stands for the gap, the latest character first. -/
def folded (g : Gap) : List Char :=
  if g.escaped then g.breaks
  else
    match g.breaks.reverse with
    | [] => g.blanks
    | ['\n'] => [' ']
    | '\n' :: rest => rest.reverse
    | _ => g.breaks

end Gap

/-! ## Reading -/

inductive Style where
  | plain
  /-- Lines behind a `|`. -/
  | literal
  /-- Quoted, or lines behind a `>`. -/
  | other
deriving DecidableEq

/-- A scalar and what follows it. -/
structure Scanned where
  text : String
  rest : List Char
  position : Position
  /-- Whether a line has ended behind the last character. -/
  broken : Bool

/-- Separates the items of flow collections, or encloses them. -/
def isFlowIndicator (c : Char) : Bool :=
  c = ',' || c = '[' || c = ']' || c = '\x7b' || c = '\x7d'

/-- A colon before this character is refused in a plain scalar of a flow collection. -/
def isMisplaced (flow : Bool) (c : Char) (rest : List Char) : Bool :=
  flow && c = ':' && (match rest with
    | d :: _ => d = '?' || isFlowIndicator d
    | [] => false)

def endsPlain (flow : Bool) (c : Char) (rest : List Char) : Bool :=
  (c = ':' && endsWord rest) || (flow && isFlowIndicator c)

/-- Ends a plain scalar if only blanks and line breaks stand before it. -/
def endsPlainLine (indent : Nat) (flow : Bool) (p : Position) (c : Char) (rest : List Char) : Bool :=
  (!flow && decide (p.column < indent)) || c = '#' ||
    (p.column == 0 && isDocumentMark (c :: rest))

/-- The rest of a plain scalar with the characters `done`, the latest first. Its lines are indented by
`indent`, except in a flow collection. -/
def plain? (indent : Nat) (flow : Bool) :
    List Char → Position → Gap → List Char → Option Scanned
  | [], p, gap, done => some ⟨String.ofList done.reverse, [], p, gap.isBroken⟩
  | c :: rest, p, gap, done =>
    if isBlank c || isBreak c then
      if c = '\t' && gap.isBroken && decide (p.column < indent) then none
      else plain? indent flow rest (p.after c) (gap.add c) done
    else if (!gap.isEmpty && endsPlainLine indent flow p c rest) || endsPlain flow c rest then
      some ⟨String.ofList done.reverse, c :: rest, p, gap.isBroken⟩
    else if isMisplaced flow c rest then none
    else plain? indent flow rest (p.after c) Gap.empty (c :: (gap.folded ++ done))

/-- Where the reader stands in an escape. -/
inductive Escape where
  | none
  /-- Behind an apostrophe, which ends the scalar or is the first of two. -/
  | apostrophe
  | backslash
  /-- `left` digits of a code point are missing. -/
  | digits (left : Nat) (value : Nat)

def letterEscape? : Char → Option Char
  | '0' => some '\x00'
  | 'a' => some '\x07'
  | 'b' => some '\x08'
  | 't' => some '\t'
  | '\t' => some '\t'
  | 'n' => some '\n'
  | 'v' => some '\x0b'
  | 'f' => some '\x0c'
  | 'r' => some '\r'
  | 'e' => some '\x1b'
  | ' ' => some ' '
  | '"' => some '"'
  | '/' => some '/'
  | '\\' => some '\\'
  | 'N' => some '\u0085'
  | '_' => some '\u00a0'
  | 'L' => some '\u2028'
  | 'P' => some '\u2029'
  | _ => Option.none

def escapeDigits? : Char → Option Nat
  | 'x' => some 2
  | 'u' => some 4
  | 'U' => some 8
  | _ => none

/-- The rest of a scalar between quotation marks (`double`) or apostrophes, with the characters `done`,
the latest first. -/
def quoted? (double : Bool) :
    List Char → Position → Gap → Escape → List Char → Option Scanned
  | [], p, _, .apostrophe, done => some ⟨String.ofList done.reverse, [], p, false⟩
  | [], _, _, _, _ => none
  | c :: rest, p, _, .apostrophe, done =>
    if c = '\'' then quoted? double rest (p.after c) Gap.empty .none ('\'' :: done)
    else some ⟨String.ofList done.reverse, c :: rest, p, false⟩
  | c :: rest, p, _, .backslash, done =>
    if isBreak c then quoted? double rest (p.after c) Gap.escapedBreak .none done
    else
      match escapeDigits? c, letterEscape? c with
      | some n, _ => quoted? double rest (p.after c) Gap.empty (.digits n 0) done
      | none, some d => quoted? double rest (p.after c) Gap.empty .none (d :: done)
      | none, none => none
  | c :: rest, p, _, .digits left value, done =>
    match hexValue? c with
    | none => none
    | some d =>
      if left = 1 then
        match scalar? (16 * value + d) with
        | none => none
        | some e => quoted? double rest (p.after c) Gap.empty .none (e :: done)
      else quoted? double rest (p.after c) Gap.empty (.digits (left - 1) (16 * value + d)) done
  | c :: rest, p, gap, .none, done =>
    if isBlank c || isBreak c then quoted? double rest (p.after c) (gap.add c) .none done
    else if p.column == 0 && isDocumentMark (c :: rest) then none
    else
      let before := gap.folded ++ done
      if double && c = '"' then some ⟨String.ofList before.reverse, rest, p.after c, false⟩
      else if double && c = '\\' then quoted? double rest (p.after c) Gap.empty .backslash before
      else if !double && c = '\'' then
        quoted? double rest (p.after c) Gap.empty .apostrophe before
      else quoted? double rest (p.after c) Gap.empty .none (c :: before)

end Yaml

end VarSchema
