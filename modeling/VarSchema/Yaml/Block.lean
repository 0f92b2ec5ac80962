import VarSchema.Yaml.Scalar

/-!
# Block scalars

A block scalar is the indented lines behind a `|` or, folded, behind a `>`.

* `Block.Header` : what stands behind the mark; `Block.Header.read?` : its reader;
* `Block.lines?` : the lines at an indentation; `Block.read?` : the scalar behind its mark.

A folded scalar joins its lines, except around lines that start with a blank. The first line with text gives the
indentation unless the header does.
-/

namespace VarSchema

namespace Yaml

namespace Block

/-- What becomes of the line breaks behind the last line. -/
inductive Chomping where
  | strip
  /-- Only the first stays. -/
  | clip
  | keep

/-- What stands behind the mark of a block scalar. -/
structure Header where
  chomping : Chomping
  /-- How much deeper than the collection around it the lines are. -/
  indent : Option Nat

namespace Header

def chomping? : Char → Option Chomping
  | '-' => some .strip
  | '+' => some .keep
  | _ => none

/-- The indentation that comes first, if there is one, and what follows it. It is not zero. -/
def indent? : List Char → Option (Option Nat × List Char)
  | c :: rest =>
    if c = '0' then none
    else if c.isDigit then some (hexValue? c, rest)
    else some (none, c :: rest)
  | [] => some (none, [])

/-- The chomping that comes first, if there is one, and what follows it. -/
def leading : List Char → Option Chomping × List Char
  | c :: rest => if (chomping? c).isSome then (chomping? c, rest) else (none, c :: rest)
  | [] => (none, [])

/-- The header behind a mark, its two parts in any order, and what follows it. -/
def read? (cs : List Char) : Option (Header × List Char) := do
  match leading cs with
  | (some chomping, rest) =>
    let (indent, rest) ← indent? rest
    return (⟨chomping, indent⟩, rest)
  | (none, _) =>
    let (indent, rest) ← indent? cs
    if indent.isNone then return (⟨.clip, none⟩, rest)
    let (chomping, rest) := leading rest
    return (⟨chomping.getD .clip, indent⟩, rest)

end Header

/-! ## Lines -/

/-- The lines read so far. -/
structure Lines where
  /-- Whether a line has begun. -/
  begun : Bool
  /-- Whether the last line with text starts with a blank. -/
  blank : Bool
  /-- The line break behind that line. -/
  lineBreak : Option Char
  /-- The line breaks of the empty lines since, the latest first. -/
  empty : List Char
  /-- The characters before those line breaks, the latest first. -/
  done : List Char

namespace Lines

def none : Lines := ⟨false, false, .none, [], []⟩

def begin (folded : Bool) (s : Lines) (c : Char) : Lines :=
  let joined := folded && s.lineBreak == some '\n' && !s.blank && !isBlank c
  let before :=
    if !joined then s.lineBreak.toList ++ s.done
    else if s.empty.isEmpty then ' ' :: s.done
    else s.done
  ⟨true, isBlank c, .none, [], c :: (s.empty ++ before)⟩

def add (s : Lines) (c : Char) : Lines := { s with done := c :: s.done }

/-- A line ends, or is empty. -/
def endLine (s : Lines) (c : Char) : Lines :=
  if s.begun then { s with begun := false, lineBreak := some c, empty := [] }
  else { s with empty := c :: s.empty }

def text (chomping : Chomping) (s : Lines) : String :=
  let last := s.lineBreak.toList ++ s.done
  String.ofList (match chomping with
    | .strip => s.done.reverse
    | .clip => last.reverse
    | .keep => (s.empty ++ last).reverse)

end Lines

/-- The lines of a scalar that are indented by `indent`, behind those of `s`. No tab is part of an
indentation. -/
def lines? (folded : Bool) (chomping : Chomping) (indent : Nat) :
    List Char → Position → Lines → Option Scanned
  | [], p, s => some ⟨s.text chomping, [], p, true⟩
  | c :: rest, p, s =>
    if isBreak c then lines? folded chomping indent rest (p.after c) (s.endLine c)
    else if s.begun then lines? folded chomping indent rest (p.after c) (s.add c)
    else if p.column = indent then lines? folded chomping indent rest (p.after c) (s.begin folded c)
    else if c = ' ' then lines? folded chomping indent rest (p.after c) s
    else if c = '\t' then Option.none
    else some ⟨s.text chomping, c :: rest, p, true⟩

/-- The lines of a scalar whose first line with text gives the indentation, at least `least`. Blanks of empty
lines before it count as well: `deepest` is the deepest column so far. -/
def indentedLines? (folded : Bool) (chomping : Chomping) (least : Nat) :
    List Char → Position → (deepest : Nat) → Lines → Option Scanned
  | [], p, _, s => some ⟨s.text chomping, [], p, true⟩
  | c :: rest, p, deepest, s =>
    if isBreak c then
      indentedLines? folded chomping least rest (p.after c) (max deepest p.column) (s.endLine c)
    else if c = ' ' then indentedLines? folded chomping least rest (p.after c) deepest s
    else if c = '\t' then Option.none
    else lines? folded chomping (max least (max deepest p.column)) (c :: rest) p s

/-- What follows the line: blanks and a comment may end it. -/
def nextLine? (cs : List Char) : Option (List Char) :=
  let rest := cs.dropWhile isBlank
  let rest := if rest.head? = some '#' then rest.dropWhile fun c => !isBreak c else rest
  match rest with
  | [] => some []
  | c :: rest => if isBreak c then some rest else Option.none

/-- The scalar behind its mark, in a block collection whose items are indented by `outer`. -/
def read? (folded : Bool) (outer : Option Nat) (cs : List Char) (p : Position) : Option Scanned := do
  let (header, rest) ← Header.read? cs
  let rest ← nextLine? rest
  let p := (cs.take (cs.length - rest.length)).foldl Position.after p
  match header.indent with
  | some n => lines? folded header.chomping (outer.getD 0 + n) rest p .none
  | .none =>
    indentedLines? folded header.chomping (max 1 (outer.elim 0 (· + 1))) rest p 0 .none

end Block

end Yaml

end VarSchema
