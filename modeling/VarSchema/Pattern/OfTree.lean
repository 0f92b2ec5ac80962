import VarSchema.Pattern.Basic
import VarSchema.Pattern.Tree
import VarSchema.Unicode.CaseFolding
import VarSchema.Unicode.Name

/-!
# The meaning of written patterns

* `PatternFlags` : the flags in force at a place of a pattern;
* `CharSet.bracket` : the bracket classes such as `alpha`;
* `ClassTree.toSet`, `PatternTree.toPattern` : what a class and a pattern mean under the flags, or what makes
  them meaningless: an unknown property, or without the flag `u` a character beyond ASCII in a class or a
  class that has bytes of a character as members.

Case is folded before a class is complemented.
-/

namespace VarSchema

/-- The flags in force at a place. -/
structure PatternFlags where
  ignoreCase : Bool
  multiLine : Bool
  dotAll : Bool
  swapGreed : Bool
  crlf : Bool
  /-- Classes and case reach beyond ASCII. -/
  unicode : Bool

namespace PatternFlags

def initial : PatternFlags := ⟨false, false, false, false, false, true⟩

def change (f : PatternFlags) (c : FlagChange) : PatternFlags :=
  match c.flag with
  | 'i' => { f with ignoreCase := c.on }
  | 'm' => { f with multiLine := c.on }
  | 's' => { f with dotAll := c.on }
  | 'U' => { f with swapGreed := c.on }
  | 'R' => { f with crlf := c.on }
  | 'u' => { f with unicode := c.on }
  | _ => f

def fold (f : PatternFlags) (s : CharSet) : CharSet :=
  if !f.ignoreCase then s else if f.unicode then s.folded else s.asciiFolded

def anchor (f : PatternFlags) : Mark → Anchor
  | .caret => if !f.multiLine then .textStart else if f.crlf then .lineStartCrlf else .lineStart
  | .dollar => if !f.multiLine then .textEnd else if f.crlf then .lineEndCrlf else .lineEnd
  | .textStart => .textStart
  | .textEnd => .textEnd
  | .wordBoundary => .word .boundary !f.unicode
  | .notWordBoundary => .word .notBoundary !f.unicode
  | .wordStart => .word .start !f.unicode
  | .wordEnd => .word .stop !f.unicode
  | .wordStartHalf => .word .startHalf !f.unicode
  | .wordEndHalf => .word .stopHalf !f.unicode

end PatternFlags

/-! ## Sets -/

namespace CharSet

/-- The bracket classes, all within ASCII. -/
def bracket (name : String) : CharSet :=
  match name with
  | "alnum" => .ofTable "30-39 41-5a 61-7a"
  | "alpha" => .ofTable "41-5a 61-7a"
  | "ascii" => .ofTable "0-7f"
  | "blank" => .ofTable "9 20"
  | "cntrl" => .ofTable "0-1f 7f"
  | "digit" => .ofTable "30-39"
  | "graph" => .ofTable "21-7e"
  | "lower" => .ofTable "61-7a"
  | "print" => .ofTable "20-7e"
  | "punct" => .ofTable "21-2f 3a-40 5b-60 7b-7e"
  | "space" => .ofTable "9-d 20"
  | "upper" => .ofTable "41-5a"
  | "word" => asciiWord
  | "xdigit" => .ofTable "30-39 41-46 61-66"
  | _ => empty

def ofLetter (unicode : Bool) (c : LetterClass) : CharSet :=
  match unicode, c with
  | true, .digit => Category.set .decimalNumber
  | true, .space => .ofTable Listed.whiteSpace
  | true, .word => Derived.word
  | false, .digit => bracket "digit"
  | false, .space => bracket "space"
  | false, .word => asciiWord

end CharSet

/-- Results of giving meaning: an error points into the pattern. -/
abbrev Meaning := Except PatternError

namespace Meaning

def refuse (fault : PatternFault) (span : Span) : Meaning α := .error ⟨fault, span, none⟩

/-- The set, if without the flag `u` it stays within ASCII. -/
def whole (f : PatternFlags) (span : Span) (s : CharSet) : Meaning CharSet :=
  if f.unicode || s.below 0x80 then .ok s else refuse .partialCharacter span

/-- The set or its complement, case folded first. -/
def foldedSet (f : PatternFlags) (negated : Bool) (s : CharSet) : CharSet :=
  if negated then (f.fold s).complement else f.fold s

def propertySet (span : Span) (q : PropertyQuery) : Meaning CharSet :=
  let result := match q with
    | .name n => PropertyName.set n
    | .value n v => PropertyName.valueSet n v
  match result with
  | .ok s => .ok s
  | .error .unknownName => refuse .propertyUnknown span
  | .error .unknownValue => refuse .propertyValueUnknown span

/-- The set of a named class. The classes of letters are closed under folding. -/
def namedSet (f : PatternFlags) (span : Span) (negated : Bool) : NamedClass → Meaning CharSet
  | .letter c =>
    let s := CharSet.ofLetter f.unicode c
    whole f span (if negated then s.complement else s)
  | .property q =>
    if !f.unicode then refuse .unicode span
    else (propertySet span q).map (foldedSet f negated)
  | .bracket name => whole f span (foldedSet f negated (.bracket name))

/-- A character outside classes; without the flag `u` two digits above `7f` mean a byte. -/
def literalChar (f : PatternFlags) (l : PatternLiteral) : Meaning Char :=
  if !f.unicode && l.form = .byte && decide (0x7F < l.char.toNat) then refuse .partialCharacter l.span
  else .ok l.char

/-- A character in a class, without the flag `u` only of ASCII. -/
def classChar (f : PatternFlags) (l : PatternLiteral) : Meaning Char := do
  let c ← literalChar f l
  if f.unicode || decide (c.toNat < 0x80) then return c else refuse .unicode l.span

def combine : ClassOp → CharSet → CharSet → CharSet
  | .intersection, a, b => a.inter b
  | .difference, a, b => a.minus b
  | .symmetricDifference, a, b => a.either b

end Meaning

open Meaning

namespace ClassTree

mutual
def toSet (f : PatternFlags) : ClassTree → Meaning CharSet
  | .empty _ => .ok .empty
  | .literal l => (classChar f l).map .single
  | .range _ lo hi => do return .range (← classChar f lo) (← classChar f hi)
  | .named span negated c => namedSet f span negated c
  | .bracketed span negated inner => do
    let s ← toSet f inner
    whole f span (foldedSet f negated s)
  | .union _ items => toUnion f items
  | .op _ kind lhs rhs => do
    let a ← toSet f lhs
    let b ← toSet f rhs
    return combine kind (f.fold a) (f.fold b)
termination_by structural t => t

def toUnion (f : PatternFlags) : List ClassTree → Meaning CharSet
  | [] => .ok .empty
  | t :: rest => do
    let a ← toSet f t
    let b ← toUnion f rest
    return a.union b
termination_by structural ts => ts
end

end ClassTree

namespace PatternTree

/-- Any character, outside the flag `s` any but those that end lines. -/
def dotSet (f : PatternFlags) : CharSet :=
  if f.dotAll then .full
  else if f.crlf then (CharSet.ofTable "a d").complement
  else (CharSet.ofTable "a").complement

/-- A character in any case, if the flags say so. -/
def ofChar (f : PatternFlags) (c : Char) : Pattern := .ofSet (f.fold (.single c))

mutual
/-- The pattern of a written one, and the flags behind it. -/
def toPattern (f : PatternFlags) : PatternTree → Meaning (Pattern × PatternFlags)
  | .empty _ => .ok (.empty, f)
  | .flags _ changes => .ok (.empty, changes.foldl PatternFlags.change f)
  | .literal l => (literalChar f l).map fun c => (ofChar f c, f)
  | .dot span => if f.unicode then .ok (.ofSet (dotSet f), f) else refuse .partialCharacter span
  | .mark _ m => .ok (.anchor (f.anchor m), f)
  | .named span negated c => (namedSet f span negated c).map fun s => (.ofSet s, f)
  | .bracketed span negated inner => do
    let s ← inner.toSet f
    return (.ofSet (← whole f span (foldedSet f negated s)), f)
  | .repeated _ inner least most greedy => do
    let (p, f) ← toPattern f inner
    return (.ofRepetition p least most (greedy != f.swapGreed), f)
  | .group _ kind inner =>
    match kind with
    | .capturing index => do return (.group index (← toPattern f inner).1, f)
    | .flags changes => do return ((← toPattern (changes.foldl PatternFlags.change f) inner).1, f)
  | .alternatives _ branches => do
    let (ps, f) ← toPatterns f branches
    return (.ofAlternatives ps, f)
  | .sequence _ items => do
    let (ps, f) ← toPatterns f items
    return (.ofSequence ps, f)
termination_by structural t => t

def toPatterns (f : PatternFlags) : List PatternTree → Meaning (List Pattern × PatternFlags)
  | [] => .ok ([], f)
  | t :: rest => do
    let (p, f) ← toPattern f t
    let (ps, f) ← toPatterns f rest
    return (p :: ps, f)
termination_by structural ts => ts
end

end PatternTree

end VarSchema
