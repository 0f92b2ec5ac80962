import VarSchema.Pattern.Anchor

/-!
# Patterns

* `Pattern` : literal texts, character sets, anchors, repetitions, groups, sequences and alternatives;
* `Pattern.leastLength?`, `Pattern.mostLength?` : bounds on the length in bytes of what a pattern matches;
* `Pattern.ofSet`, `Pattern.ofRepetition`, `Pattern.ofSequence`, `Pattern.ofAlternatives` : patterns in normal
  form. Sequences and alternatives do not stand directly in others of their kind, neighbouring literals are
  one, alternatives of characters are a set, and a common start of all alternatives stands before them.
-/

namespace VarSchema

inductive Pattern where
  | empty
  | literal (cs : List Char)
  | set (s : CharSet)
  | anchor (a : Anchor)
  /-- At least `least` and at most `most` repetitions, as many or as few as possible. -/
  | repeated (p : Pattern) (least : Nat) (most : Option Nat) (greedy : Bool)
  /-- A numbered group. -/
  | group (index : Nat) (p : Pattern)
  | sequence (ps : List Pattern)
  | alternatives (ps : List Pattern)

namespace Pattern

instance : Inhabited Pattern := ⟨.empty⟩

/-! ## Equality -/

mutual
def same : Pattern → Pattern → Bool
  | .empty, .empty => true
  | .literal a, .literal b => a == b
  | .set a, .set b => a == b
  | .anchor a, .anchor b => a == b
  | .repeated p k m g, .repeated q l n h => same p q && k == l && m == n && g == h
  | .group i p, .group j q => i == j && same p q
  | .sequence ps, .sequence qs => sameList ps qs
  | .alternatives ps, .alternatives qs => sameList ps qs
  | _, _ => false
termination_by structural p => p

def sameList : List Pattern → List Pattern → Bool
  | [], [] => true
  | p :: ps, q :: qs => same p q && sameList ps qs
  | _, _ => false
termination_by structural ps => ps
end

/-! ## Lengths -/

def byteCount (n : Nat) : Nat := if n < 0x80 then 1 else if n < 0x800 then 2 else if n < 0x10000 then 3 else 4

def bytesOf (cs : List Char) : Nat := cs.foldr (fun c n => byteCount c.toNat + n) 0

mutual
/-- The fewest bytes of a match, if there is one. -/
def leastLength? : Pattern → Option Nat
  | .empty => some 0
  | .literal cs => some (bytesOf cs)
  | .set s => s.ranges.head?.map fun r => byteCount r.1
  | .anchor _ => some 0
  | .repeated p least _ _ => (leastLength? p).map (· * least)
  | .group _ p => leastLength? p
  | .sequence ps => leastTotal? ps
  | .alternatives ps => leastOf? ps
termination_by structural p => p

def leastTotal? : List Pattern → Option Nat
  | [] => some 0
  | p :: rest =>
    match leastLength? p, leastTotal? rest with
    | some m, some n => some (m + n)
    | _, _ => none
termination_by structural ps => ps

def leastOf? : List Pattern → Option Nat
  | [] => none
  | [p] => leastLength? p
  | p :: rest =>
    match leastLength? p, leastOf? rest with
    | some m, some n => some (min m n)
    | _, _ => none
termination_by structural ps => ps
end

mutual
/-- The most bytes of a match, if there is a bound. -/
def mostLength? : Pattern → Option Nat
  | .empty => some 0
  | .literal cs => some (bytesOf cs)
  | .set s => s.ranges.getLast?.map fun r => byteCount r.2
  | .anchor _ => some 0
  | .repeated p _ most _ =>
    match mostLength? p, most with
    | some n, some m => some (n * m)
    | _, _ => none
  | .group _ p => mostLength? p
  | .sequence ps => mostTotal? ps
  | .alternatives ps => mostOf? ps
termination_by structural p => p

def mostTotal? : List Pattern → Option Nat
  | [] => some 0
  | p :: rest =>
    match mostLength? p, mostTotal? rest with
    | some m, some n => some (m + n)
    | _, _ => none
termination_by structural ps => ps

def mostOf? : List Pattern → Option Nat
  | [] => none
  | [p] => mostLength? p
  | p :: rest =>
    match mostLength? p, mostOf? rest with
    | some m, some n => some (max m n)
    | _, _ => none
termination_by structural ps => ps
end

/-! ## Normal forms -/

/-- The pattern of a set: a set of one character is a literal. -/
def ofSet (s : CharSet) : Pattern :=
  match s.single? with
  | some c => .literal [c]
  | none => .set s

/-- Repetitions. What only matches the empty text is repeated once at most. -/
def ofRepetition (p : Pattern) (least : Nat) (most : Option Nat) (greedy : Bool) : Pattern :=
  let blank := p.mostLength? == some 0
  let least := if blank then min least 1 else least
  let most := if blank then some (min (most.getD 1) 1) else most
  if least = 0 ∧ most = some 0 then .empty
  else if least = 1 ∧ most = some 1 then p
  else .repeated p least most greedy

def parts : Pattern → List Pattern
  | .empty => []
  | .sequence ps => ps
  | p => [p]

/-- One more part in front of a sequence; neighbouring literals are joined. -/
def consPart (p : Pattern) (rest : List Pattern) : List Pattern :=
  match p, rest with
  | .literal a, .literal b :: rest => .literal (a ++ b) :: rest
  | p, rest => p :: rest

def ofSequence (ps : List Pattern) : Pattern :=
  match (ps.flatMap parts).foldr consPart [] with
  | [] => .empty
  | [p] => p
  | qs => .sequence qs

def branches : Pattern → List Pattern
  | .alternatives ps => ps
  | p => [p]

/-- The character that a pattern matches, if it is a literal of one. -/
def char? : Pattern → Option Char
  | .literal [c] => some c
  | _ => none

def set? : Pattern → Option CharSet
  | .set s => some s
  | _ => none

/-- The number of equal patterns at the start of two lists. -/
def commonCount : List Pattern → List Pattern → Nat
  | p :: ps, q :: qs => if same p q then commonCount ps qs + 1 else 0
  | _, _ => 0

def sequenceParts? : Pattern → Option (List Pattern)
  | .sequence ps => some ps
  | _ => none

/-- The parts that all of some sequences start with, and what is left of each. -/
def commonStart? (ps : List Pattern) : Option (List Pattern × List (List Pattern)) :=
  match ps.mapM sequenceParts? with
  | some (first :: rest) =>
    let n := rest.foldl (fun n qs => min n (commonCount first qs)) first.length
    if n = 0 then none else some (first.take n, (first :: rest).map (·.drop n))
  | _ => none

mutual
def size : Pattern → Nat
  | .repeated p _ _ _ => size p + 1
  | .group _ p => size p + 1
  | .sequence ps => sizeList ps + 1
  | .alternatives ps => sizeList ps + 1
  | _ => 1
termination_by structural p => p

def sizeList : List Pattern → Nat
  | [] => 0
  | p :: rest => size p + sizeList rest
termination_by structural ps => ps
end

/-- Alternatives: of characters or of sets they are a set, and a common start of all stands before them.
What is left of them without that start is smaller, so their size bounds the steps. -/
def ofBranches : Nat → List Pattern → Pattern
  | 0, ps => .alternatives ps
  | fuel + 1, ps =>
    match ps.flatMap branches with
    | [] => .set .empty
    | [p] => p
    | qs =>
      match qs.mapM char?, qs.mapM set? with
      | some cs, _ => ofSet (.ofList cs)
      | none, some ss => ofSet (.unions ss)
      | none, none =>
        match commonStart? qs with
        | some (start, rests) => ofSequence (start ++ [ofBranches fuel (rests.map ofSequence)])
        | none => .alternatives qs

def ofAlternatives (ps : List Pattern) : Pattern := ofBranches (sizeList ps + 1) ps

end Pattern

end VarSchema
