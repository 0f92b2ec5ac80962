/-!
# Sets of characters

* `CharSet` : a set of characters as increasing ranges of code points; `CharSet.has` : membership;
* `CharSet.ofRanges` : the set of any ranges; `CharSet.ofTable` : the set of a text of ranges;
* `CharSet.union`, `CharSet.unions`, `CharSet.complement`, `CharSet.inter`, `CharSet.minus`,
  `CharSet.either` : the algebra of sets;
* `CharSet.single?` : the member of a set of one character.

A text of ranges holds items between blanks, in hexadecimal digits: `41` is one code point, `41-5a` a range
with both ends, and `100-12e/2` each second code point from `100` to `12e`.
-/

namespace VarSchema

/-- A set of characters: ranges of code points with both ends, increasing and apart from each other. -/
structure CharSet where
  ranges : List (Nat × Nat)
deriving DecidableEq, Inhabited

namespace CharSet

def inRanges (n : Nat) : List (Nat × Nat) → Bool
  | [] => false
  | (lo, hi) :: rest => decide (lo ≤ n) && (decide (n ≤ hi) || inRanges n rest)

def hasCode (s : CharSet) (n : Nat) : Bool := inRanges n s.ranges

def has (s : CharSet) (c : Char) : Bool := s.hasCode c.toNat

/-- The range `lo` to `hi` and the ranges behind it, which start no earlier, with neighbours joined. -/
def joined (lo hi : Nat) : List (Nat × Nat) → List (Nat × Nat)
  | [] => [(lo, hi)]
  | (l, h) :: rest => if l ≤ hi + 1 then joined lo (max hi h) rest else (lo, hi) :: joined l h rest

/-- The set of the code points of some ranges. -/
def ofRanges (rs : List (Nat × Nat)) : CharSet :=
  match rs.mergeSort fun a b => a.1 ≤ b.1 with
  | [] => ⟨[]⟩
  | (lo, hi) :: rest => ⟨joined lo hi rest⟩

def empty : CharSet := ⟨[]⟩

def full : CharSet := ⟨[(0, 0x10FFFF)]⟩

/-- The set of the characters from `lo` to `hi`. -/
def range (lo hi : Char) : CharSet := ⟨[(lo.toNat, hi.toNat)]⟩

def single (c : Char) : CharSet := range c c

def ofList (cs : List Char) : CharSet := ofRanges (cs.map fun c => (c.toNat, c.toNat))

def unions (ss : List CharSet) : CharSet := ofRanges (ss.flatMap ranges)

def union (a b : CharSet) : CharSet := unions [a, b]

/-- The code points from `next` on that are in none of some increasing ranges. -/
def gaps (next : Nat) : List (Nat × Nat) → List (Nat × Nat)
  | [] => if next ≤ 0x10FFFF then [(next, 0x10FFFF)] else []
  | (lo, hi) :: rest => if next < lo then (next, lo - 1) :: gaps (hi + 1) rest else gaps (hi + 1) rest

/-- The code points that are no characters: surrogates. -/
def surrogates : CharSet := ⟨[(0xD800, 0xDFFF)]⟩

def complement (s : CharSet) : CharSet := ⟨gaps 0 (union s surrogates).ranges⟩

def inter (a b : CharSet) : CharSet := (union a.complement b.complement).complement

def minus (a b : CharSet) : CharSet := a.inter b.complement

/-- The members of just one of two sets. -/
def either (a b : CharSet) : CharSet := (a.minus b).union (b.minus a)

def codes (s : CharSet) : List Nat :=
  s.ranges.flatMap fun (lo, hi) => (List.range (hi + 1 - lo)).map (lo + ·)

def isEmpty (s : CharSet) : Bool := s.ranges.isEmpty

def below (s : CharSet) (limit : Nat) : Bool := s.ranges.all fun r => decide (r.2 < limit)

/-- The member of a set of one character. -/
def single? (s : CharSet) : Option Char :=
  match s.ranges with
  | [(lo, hi)] => if lo = hi then some (Char.ofNat lo) else none
  | _ => none

/-! ## Tables -/

/-- Reading a table: the ranges before the current item, the numbers of the item, the digits of the last
one. -/
structure TableState where
  done : List (Nat × Nat)
  numbers : List Nat
  value : Option Nat

def itemRanges : List Nat → List (Nat × Nat)
  | [n] => [(n, n)]
  | [lo, hi] => [(lo, hi)]
  | [lo, hi, step] => (List.range ((hi - lo) / step + 1)).map fun i => (lo + i * step, lo + i * step)
  | _ => []

/-- The value of a hexadecimal digit in small letters. -/
def digitValue (c : Char) : Nat :=
  if c.isDigit then c.toNat - '0'.toNat else c.toNat - 'a'.toNat + 10

namespace TableState

def finish (s : TableState) : TableState :=
  match s.value with
  | none => s
  | some n => ⟨(itemRanges (s.numbers ++ [n])).reverse ++ s.done, [], none⟩

def step (s : TableState) (c : Char) : TableState :=
  if c = ' ' || c = '\n' then s.finish
  else if c = '-' || c = '/' then { s with numbers := s.numbers ++ s.value.toList, value := none }
  else { s with value := some (16 * s.value.getD 0 + digitValue c) }

end TableState

def ofTable (table : String) : CharSet :=
  ofRanges (table.foldl TableState.step ⟨[], [], none⟩).finish.done.reverse

end CharSet

end VarSchema
