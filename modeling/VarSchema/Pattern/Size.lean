import Std.Data.HashMap.Basic
import VarSchema.Pattern.Basic
import VarSchema.Unicode.ByteRange

/-!
# The size of patterns

A pattern may not need more memory than `Pattern.sizeLimit` when it is laid out as an automaton over bytes,
once to read texts forwards and once backwards.

* `Meter` : the states so far and the bytes of their edges; `Meter.bytes` : the memory they need;
* `Meter.forwardSet`, `Meter.backwardSet` : the automata of a set beyond ASCII. They share states that go on
  in the same way, as far as tables of limited size remember them;
* `Meter.words` : the automaton of some literals, which share their starts;
* `Pattern.charge` : the automaton of a pattern; `Pattern.fits` : whether both automata of a pattern stay
  within the limit.
-/

namespace VarSchema

/-- The states of an automaton so far, which are numbered from zero, and the bytes of their edges. -/
structure Meter where
  states : Nat
  edges : Nat

namespace Meter

def bytes (m : Meter) : Nat := 32 * m.states + m.edges

def add (m : Meter) (states : Nat) : Meter := { m with states := m.states + states }

/-- A state with an edge for each of some ranges of bytes. -/
def ranges (m : Meter) (count : Nat) : Meter := ⟨m.states + 1, m.edges + 8 * count⟩

/-- A state with a choice among some others. -/
def choice (m : Meter) (count : Nat) : Meter := ⟨m.states + 1, m.edges + 4 * count⟩

/-! ## Sets -/

def hash (ns : List Nat) : UInt64 :=
  ns.foldl (fun h n => (h ^^^ n.toUInt64) * 1099511628211) 14695981039346656037

structure Edge where
  first : Nat
  last : Nat
  target : Nat
deriving DecidableEq

/-- States by what identifies them; a table holds one for each slot. -/
abbrev Slots (α : Type) := Std.HashMap Nat (α × Nat)

/-- The state in a slot, if it is the wanted one. -/
def Slots.get? [DecidableEq α] (t : Slots α) (slot : Nat) (key : α) : Option Nat :=
  match t[slot]? with
  | some (k, id) => if k = key then some id else none
  | none => none

/-- A state that may still get edges: the edges whose targets are known, and the range of the last one. -/
structure OpenState where
  edges : List Edge
  last : Option (Nat × Nat)

/-- The edges when the target of the last one is known, the latest first. -/
def OpenState.close (s : OpenState) (target : Nat) : List Edge :=
  match s.last with
  | some (a, b) => ⟨a, b, target⟩ :: s.edges
  | none => s.edges

/-- The states of a set while it is laid out: the open ones from the start on, and the finished ones. -/
structure SetLayout where
  meter : Meter
  finished : Slots (List Edge)
  chain : List OpenState
  target : Nat

namespace SetLayout

/-- The state with some edges, a finished one if it is remembered. -/
def finish (l : SetLayout) (edges : List Edge) : Nat × SetLayout :=
  let slot := (hash (edges.reverse.flatMap fun e => [e.first, e.last, e.target]) % 10000).toNat
  match l.finished.get? slot edges with
  | some id => (id, l)
  | none =>
    let id := l.meter.states
    (id, { l with meter := l.meter.ranges edges.length, finished := l.finished.insert slot (edges, id) })

/-- Finishes the open states behind the first `n + 1`. -/
def closeFrom (l : SetLayout) (n : Nat) : SetLayout :=
  let (target, l) := (l.chain.drop (n + 1)).foldr
    (fun s (target, l) => finish l (s.close target)) (l.target, l)
  let kept := l.chain.take (n + 1)
  let closed := match kept.getLast? with
    | some s => [⟨s.close target, none⟩]
    | none => []
  { l with chain := kept.dropLast ++ closed }

/-- The number of ranges at the start that are those of the open states. -/
def sharedCount : List (Nat × Nat) → List OpenState → Nat
  | r :: rs, s :: ss => if s.last = some r then sharedCount rs ss + 1 else 0
  | _, _ => 0

def addSequence (l : SetLayout) (rs : List (Nat × Nat)) : SetLayout :=
  let n := sharedCount rs l.chain
  let l := l.closeFrom n
  let opened := match l.chain.getLast?, rs.drop n with
    | some s, r :: rest => ⟨s.edges, some r⟩ :: rest.map fun r => ⟨[], some r⟩
    | _, _ => []
  { l with chain := l.chain.dropLast ++ opened }

end SetLayout

/-- The automaton of a set beyond ASCII, to read forwards. -/
def forwardSet (m : Meter) (s : CharSet) : Meter :=
  let start : SetLayout := ⟨m.add 1, ∅, [⟨[], none⟩], m.states⟩
  let l := (s.byteSequences.foldl SetLayout.addSequence start).closeFrom 0
  match l.chain with
  | first :: _ => (l.finish first.edges).2.meter
  | [] => l.meter

/-- The state in front of some byte ranges, read backwards, and what is remembered. -/
def backwardSequence (acc : Meter × Slots Edge) (target : Nat) : List (Nat × Nat) → Meter × Slots Edge
  | [] => acc
  | (a, b) :: rest =>
    let edge : Edge := ⟨a, b, target⟩
    let slot := (hash [target, a, b] % 1000).toNat
    match acc.2.get? slot edge with
    | some id => backwardSequence acc id rest
    | none =>
      let id := acc.1.states
      backwardSequence (acc.1.add 1, acc.2.insert slot (edge, id)) id rest

/-- The automaton of a set beyond ASCII, to read backwards. -/
def backwardSet (m : Meter) (s : CharSet) : Meter :=
  let sequences := s.byteSequences
  let target := m.states + 1
  (sequences.foldl (fun acc rs => backwardSequence acc target rs)
    ((m.choice sequences.length).add 1, ∅)).1

/-! ## Literals -/

/-- The distinct first bytes of some words, in order. -/
def firstBytes (words : List (List Nat)) : List Nat := (words.filterMap List.head?).eraseDups

def behind (b : Nat) (words : List (List Nat)) : List (List Nat) :=
  words.filterMap fun w => if w.head? = some b then some w.tail else none

/-- Words in groups: a word that ends here ends a group, unless it is a repeated one in front of all. -/
def wordGroups (words : List (List Nat)) : List (List (List Nat)) :=
  match words with
  | [] :: rest => [] :: (rest.dropWhile List.isEmpty).splitOnP List.isEmpty
  | words => words.splitOnP List.isEmpty

/-- The states that lead on from a place where some words are possible; longer words are cut off at
`fuel`. -/
def wordStates : Nat → List (List Nat) → Meter → Meter
  | 0, _, m => m
  | fuel + 1, words, m =>
    let groups := wordGroups words
    let full := groups.filter fun g => !g.isEmpty
    if full.isEmpty then m
    else
      let m := full.foldl (fun m g =>
        let bs := firstBytes g
        let m := bs.foldl (fun m b => wordStates fuel (behind b g) m) m
        if bs.length = 1 then m.add 1 else m.ranges bs.length) m
      m.choice (full.length + (groups.length - 1))

def words (m : Meter) (ws : List (List Nat)) : Meter :=
  wordStates ((ws.map List.length).foldl max 0 + 1) ws (m.add 1)

end Meter

namespace Pattern

/-- The memory that an automaton may need. -/
def sizeLimit : Nat := 10485760

/-- `n` times the same step, until the limit is passed. -/
def chargeTimes (step : Meter → Meter) : Nat → Meter → Meter
  | 0, m => m
  | n + 1, m => if sizeLimit < m.bytes then m else chargeTimes step n (step m)

def chargeExactly (step : Meter → Meter) (n : Nat) (m : Meter) : Meter :=
  if n = 0 then m.add 1 else chargeTimes step n m

def chargeRepeated (step : Meter → Meter) (nullable : Bool) (least : Nat) (most : Option Nat) (m : Meter) :
    Meter :=
  match least, most with
  | 0, some 1 => (step (m.choice 2)).add 1
  | 0, none => if nullable then (((step m).choice 2).choice 2).add 1 else step (m.choice 2)
  | 1, none => (step m).choice 2
  | n, none => (step (chargeExactly step (n - 1) m)).choice 2
  | n, some k =>
    let m := chargeExactly step n m
    if k = n then m else chargeTimes (fun m => step (m.choice 2)) (k - n) (m.add 1)

def literalBytes? : Pattern → Option (List Nat)
  | .literal cs => some (cs.flatMap fun c => ByteRange.encode c.toNat)
  | _ => none

mutual
/-- The automaton of a pattern behind some states. -/
def charge (backward : Bool) : Pattern → Meter → Meter
  | .empty, m => m.add 1
  | .literal cs, m => m.add (bytesOf cs)
  | .set s, m =>
    if s.below 0x80 then (m.add 1).ranges s.ranges.length
    else if backward then m.backwardSet s else m.forwardSet s
  | .anchor _, m => m.add 1
  | .repeated p least most _, m =>
    chargeRepeated (charge backward p) (p.leastLength?.all (· = 0)) least most m
  | .group _ p, m => if backward then charge backward p m else (charge backward p (m.add 1)).add 1
  | .sequence ps, m => if backward then chargeLast backward ps m else chargeAll backward ps m
  | .alternatives ps, m =>
    match ps.mapM literalBytes? with
    | some ws => m.words (if backward then ws.map List.reverse else ws)
    | none => chargeBranches backward ps.length 0 ps m
termination_by structural p => p

def chargeAll (backward : Bool) : List Pattern → Meter → Meter
  | [], m => m
  | p :: rest, m => chargeAll backward rest (charge backward p m)
termination_by structural ps => ps

def chargeLast (backward : Bool) : List Pattern → Meter → Meter
  | [], m => m
  | p :: rest, m => charge backward p (chargeLast backward rest m)
termination_by structural ps => ps

/-- The automata of `count` alternatives; the choice among them and their end stand behind the second. -/
def chargeBranches (backward : Bool) (count : Nat) : Nat → List Pattern → Meter → Meter
  | _, [], m => m
  | i, p :: rest, m =>
    let m := charge backward p m
    chargeBranches backward count (i + 1) rest (if i = 1 then (m.choice count).add 1 else m)
termination_by structural _ ps => ps
end

mutual
/-- Whether every match starts at the start of the text. -/
def startsText : Pattern → Bool
  | .anchor a => a == .textStart
  | .repeated p least _ _ => decide (0 < least) && startsText p
  | .group _ p => startsText p
  | .sequence ps => startsTextAll ps
  | .alternatives ps => !ps.isEmpty && startsTextEach ps
  | _ => false
termination_by structural p => p

/-- Whether a part up to the first that is not always empty starts at the start of the text. -/
def startsTextAll : List Pattern → Bool
  | [] => false
  | p :: rest => startsText p || (mostLength? p == some 0 && startsTextAll rest)
termination_by structural ps => ps

def startsTextEach : List Pattern → Bool
  | [] => true
  | p :: rest => startsText p && startsTextEach rest
termination_by structural ps => ps
end

mutual
def endsText : Pattern → Bool
  | .anchor a => a == .textEnd
  | .repeated p least _ _ => decide (0 < least) && endsText p
  | .group _ p => endsText p
  | .sequence ps => (endsTextAll ps).1
  | .alternatives ps => !ps.isEmpty && endsTextEach ps
  | _ => false
termination_by structural p => p

/-- Whether a part behind the last that is not always empty, or that one, ends at the end of the text; and
whether all parts are always empty. -/
def endsTextAll : List Pattern → Bool × Bool
  | [] => (false, true)
  | p :: rest =>
    let (ends, blank) := endsTextAll rest
    (ends || (blank && endsText p), blank && mostLength? p == some 0)
termination_by structural ps => ps

def endsTextEach : List Pattern → Bool
  | [] => true
  | p :: rest => endsText p && endsTextEach rest
termination_by structural ps => ps
end

/-- The states in front of a pattern that may match anywhere. -/
def lead (anchored : Bool) : Meter :=
  if anchored then Meter.add ⟨0, 0⟩ 1 else ((Meter.choice ⟨0, 0⟩ 2).add 1).ranges 1

/-- The automaton that reads forwards and knows its groups. -/
def forwardMeter (p : Pattern) : Meter := (charge false (.group 0 p) (lead p.startsText)).add 1

def backwardMeter (p : Pattern) : Meter := (charge true p (lead p.endsText)).add 1

/-- Whether a pattern is a long list of words, which needs no automaton. -/
def isWordList : Pattern → Bool
  | .alternatives ps => decide (3000 ≤ ps.length) && ps.all fun p => (literalBytes? p).isSome
  | _ => false

def fits (p : Pattern) : Bool :=
  p.isWordList || (decide (p.forwardMeter.bytes ≤ sizeLimit) && decide (p.backwardMeter.bytes ≤ sizeLimit))

end Pattern

end VarSchema
