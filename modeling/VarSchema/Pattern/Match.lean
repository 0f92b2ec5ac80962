import Std.Data.HashSet.Basic
import VarSchema.Pattern.Basic

/-!
# Matching

* `Pattern.after` : from places of a text, the places where a match that starts there can end, in the order
  in which they are preferred;
* `Pattern.search` : whether some part of a text matches; `Pattern.endAt?` : the end of the preferred match
  at a place.

Of several ways to match, a greedy repetition prefers more repetitions and a lazy one fewer, and
alternatives prefer the first branch. A place is listed once, where it is most preferred.
-/

namespace VarSchema

namespace Pattern

/-- The places of a list without later occurrences. -/
def distinct (is : List Nat) : List Nat :=
  (is.foldl (fun (acc : List Nat × Std.HashSet Nat) i =>
    if acc.2.contains i then acc else (i :: acc.1, acc.2.insert i)) ([], ∅)).1.reverse

def standsAt (text : Array Char) : List Char → Nat → Bool
  | [], _ => true
  | c :: rest, i => text[i]? == some c && standsAt text rest (i + 1)

def before? (text : Array Char) (i : Nat) : Option Char := if i = 0 then none else text[i - 1]?

/-- `n` repetitions; none as soon as no place is left. -/
def exactly (step : List Nat → List Nat) : Nat → List Nat → List Nat
  | 0, is => is
  | n + 1, is => if is.isEmpty then is else exactly step n (step is)

/-- What is to do in a repetition: to go on from a place with some repetitions left, or to end there. -/
inductive RepetitionTask where
  | visit (left : Option Nat) (i : Nat)
  | stop (i : Nat)

/-- The tasks behind a visit: to repeat, and to end, in the order of preference. A repetition without a
limit that stays at its place ends there. -/
def tasksAt (step : Nat → List Nat) (greedy : Bool) (left : Option Nat) (i : Nat) :
    List RepetitionTask :=
  let repeats : List RepetitionTask := match left with
    | some 0 => []
    | some (n + 1) => (step i).map (.visit (some n))
    | none => (step i).map fun j => if j = i then .stop i else .visit none j
  if greedy then repeats ++ [.stop i] else .stop i :: repeats

/-- Works tasks off, each visit once; `found` are the ends so far, the latest first. -/
def work (step : Nat → List Nat) (places : Nat) (greedy : Bool) :
    Nat → List RepetitionTask → Std.HashSet Nat → List Nat → List Nat
  | _, [], _, found => found.reverse
  | 0, _, _, found => found.reverse
  | fuel + 1, .stop i :: rest, visited, found => work step places greedy fuel rest visited (i :: found)
  | fuel + 1, .visit left i :: rest, visited, found =>
    let key := left.getD 0 * places + i
    if visited.contains key then work step places greedy fuel rest visited found
    else work step places greedy fuel (tasksAt step greedy left i ++ rest) (visited.insert key) found

/-- The ends of at most `most` more repetitions. There are at most as many visits as places for each number
of repetitions that is left, and each has at most two more tasks than there are places. -/
def upTo (step : Nat → List Nat) (places : Nat) (greedy : Bool) (most : Option Nat) (is : List Nat) :
    List Nat :=
  let fuel := is.length + (most.getD 0 + 1) * places * (places + 2) + 1
  distinct (work step places greedy fuel (is.map (.visit most)) ∅ [])

mutual
/-- The places where a match that starts at one of some places can end, in order of preference. -/
def after (text : Array Char) : Pattern → List Nat → List Nat
  | .empty, is => is
  | .literal cs, is => is.filterMap fun i => if standsAt text cs i then some (i + cs.length) else none
  | .set s, is => is.filterMap fun i => if text[i]?.any s.has then some (i + 1) else none
  | .anchor a, is => is.filter fun i => a.holds (before? text i) text[i]?
  | .repeated p least most greedy, is =>
    let start := exactly (after text p) least is
    if most = some least then start
    else upTo (fun i => after text p [i]) (text.size + 1) greedy (most.map (· - least)) start
  | .group _ p, is => after text p is
  | .sequence ps, is => afterAll text ps is
  | .alternatives ps, is => distinct (is.flatMap (afterSome text ps))
termination_by structural p => p

def afterAll (text : Array Char) : List Pattern → List Nat → List Nat
  | [], is => is
  | p :: rest, is => afterAll text rest (distinct (after text p is))
termination_by structural ps => ps

def afterSome (text : Array Char) : List Pattern → Nat → List Nat
  | [], _ => []
  | p :: rest, i => after text p [i] ++ afterSome text rest i
termination_by structural ps => ps
end

def search (p : Pattern) (s : String) : Bool :=
  let text := s.toList.toArray
  !(after text p (List.range (text.size + 1))).isEmpty

/-- The end of the preferred match at a place. -/
def endAt? (p : Pattern) (text : Array Char) (i : Nat) : Option Nat := (after text p [i]).head?

end Pattern

end VarSchema
