import VarSchema.Pattern.Error

/-!
# The written form of patterns

* `PatternTree` : a pattern as it is written, each part with its span;
* `ClassTree` : the inside of a bracket class;
* `Escaped` : what a backslash and a letter can stand for;
* `PatternTree.deepest?` : the first part that lies too deep, by the number of brackets, repetitions,
  sequences and alternatives around it.
-/

namespace VarSchema

/-- How a character is written, as far as it matters. -/
inductive LiteralForm where
  /-- By two hexadecimal digits, so that it can mean a single byte. -/
  | byte
  /-- As the bell. -/
  | bell
  | plain
deriving DecidableEq

structure PatternLiteral where
  span : Span
  char : Char
  form : LiteralForm

inductive LetterClass where
  | digit
  | space
  | word
deriving DecidableEq

inductive PropertyQuery where
  | name (name : List Char)
  | value (name value : List Char)

inductive NamedClass where
  | letter (c : LetterClass)
  | property (q : PropertyQuery)
  /-- A bracket class such as `[:alpha:]`. -/
  | bracket (name : String)

/-- Conditions on a place, as they are written. -/
inductive Mark where
  | caret
  | dollar
  | textStart
  | textEnd
  | wordBoundary
  | notWordBoundary
  | wordStart
  | wordEnd
  | wordStartHalf
  | wordEndHalf
deriving DecidableEq

inductive ClassOp where
  | intersection
  | difference
  | symmetricDifference
deriving DecidableEq

inductive ClassTree where
  | empty (span : Span)
  | literal (l : PatternLiteral)
  | range (span : Span) (lo hi : PatternLiteral)
  | named (span : Span) (negated : Bool) (c : NamedClass)
  | bracketed (span : Span) (negated : Bool) (inner : ClassTree)
  | union (span : Span) (items : List ClassTree)
  | op (span : Span) (kind : ClassOp) (lhs rhs : ClassTree)

namespace ClassTree

instance : Inhabited ClassTree := ⟨.union ⟨0, 0⟩ []⟩

def span : ClassTree → Span
  | .empty s => s
  | .literal l => l.span
  | .range s _ _ => s
  | .named s _ _ => s
  | .bracketed s _ _ => s
  | .union s _ => s
  | .op s _ _ _ => s

end ClassTree

/-- A change of a flag: its letter, and whether it is set. -/
structure FlagChange where
  flag : Char
  on : Bool

/-- What a group does besides grouping. -/
inductive GroupKind where
  /-- The group is numbered. -/
  | capturing (index : Nat)
  /-- Flags change inside the group. -/
  | flags (changes : List FlagChange)

/-- A pattern as it is written. -/
inductive PatternTree where
  | empty (span : Span)
  | flags (span : Span) (changes : List FlagChange)
  | literal (l : PatternLiteral)
  | dot (span : Span)
  | mark (span : Span) (m : Mark)
  | named (span : Span) (negated : Bool) (c : NamedClass)
  | bracketed (span : Span) (negated : Bool) (inner : ClassTree)
  | repeated (span : Span) (inner : PatternTree) (least : Nat) (most : Option Nat) (greedy : Bool)
  | group (span : Span) (kind : GroupKind) (inner : PatternTree)
  | alternatives (span : Span) (branches : List PatternTree)
  | sequence (span : Span) (items : List PatternTree)

namespace PatternTree

instance : Inhabited PatternTree := ⟨.empty ⟨0, 0⟩⟩

def span : PatternTree → Span
  | .empty s => s
  | .flags s _ => s
  | .literal l => l.span
  | .dot s => s
  | .mark s _ => s
  | .named s _ _ => s
  | .bracketed s _ _ => s
  | .repeated s _ _ _ _ => s
  | .group s _ _ => s
  | .alternatives s _ => s
  | .sequence s _ => s

end PatternTree

/-! ## Depth -/

namespace ClassTree

mutual
/-- The first part of a class that lies too deep; `left` is the depth that is left. -/
def deepest? (left : Nat) : ClassTree → Option Span
  | .bracketed s _ inner => if left = 0 then some s else deepest? (left - 1) inner
  | .union s items => if left = 0 then some s else deepestItem? (left - 1) items
  | .op s _ lhs rhs =>
    if left = 0 then some s else (deepest? (left - 1) lhs).or (deepest? (left - 1) rhs)
  | _ => none
termination_by structural t => t

def deepestItem? (left : Nat) : List ClassTree → Option Span
  | [] => none
  | t :: rest => (deepest? left t).or (deepestItem? left rest)
termination_by structural ts => ts
end

end ClassTree

namespace PatternTree

mutual
/-- The first part that lies too deep; `left` is the depth that is left. -/
def deepest? (left : Nat) : PatternTree → Option Span
  | .bracketed s _ inner => if left = 0 then some s else ClassTree.deepest? (left - 1) inner
  | .repeated s inner _ _ _ => if left = 0 then some s else deepest? (left - 1) inner
  | .group s _ inner => if left = 0 then some s else deepest? (left - 1) inner
  | .alternatives s branches => if left = 0 then some s else deepestItem? (left - 1) branches
  | .sequence s items => if left = 0 then some s else deepestItem? (left - 1) items
  | _ => none
termination_by structural t => t

def deepestItem? (left : Nat) : List PatternTree → Option Span
  | [] => none
  | t :: rest => (deepest? left t).or (deepestItem? left rest)
termination_by structural ts => ts
end

end PatternTree

end VarSchema
