import VarSchema.ExtendedPattern.Action

/-!
# Searching with extended patterns

* `Searcher` : what is left to do from a place, and the choices that can be taken instead;
* `Searcher.step` : one step, after which the search goes on, is over, or has failed on its way;
* `Action.search` : whether a text has a part that an action matches, unless the search reaches a limit.

When a way fails, the latest choice is taken instead. The choices that are taken and those that wait are
limited in number, `SearchLimit`.
-/

namespace VarSchema

/-- What ends a search without an answer. -/
inductive SearchLimit where
  /-- Too many choices were taken. -/
  | backtracks
  /-- Too many choices wait. -/
  | choices
deriving DecidableEq

def SearchLimit.text : SearchLimit → String
  | backtracks => "Error executing regex: Max limit for backtracking count exceeded"
  | choices => "Error executing regex: Max stack size exceeded"

/-- A place in a text, and where each group has started and ended last. -/
structure SearchPlace where
  place : Nat
  starts : Array (Option Nat)
  ends : Array (Option Nat)

inductive Task where
  | act (a : Action)
  /-- A round behind `count` others. -/
  | round (a : Action) (least : Nat) (most : Option Nat) (greedy : Bool) (count : Nat)
  /-- A round behind `count` others, of which the last one that was free to end was at `idle`. -/
  | idleRound (a : Action) (least : Nat) (greedy : Bool) (count : Nat) (idle : Option Nat)
  | endGroup (index : Nat)
  /-- Goes to a place. -/
  | go (place : Nat)
  /-- Gives up the choices above the first `depth`. -/
  | commit (depth : Nat)
  /-- Gives up the choices above the first `depth`, and fails. -/
  | refuse (depth : Nat)

/-- A choice that can be taken: what to do, and from where. -/
structure Choice where
  tasks : List Task
  start : SearchPlace

/-- What is left to do, and the choices that can be taken instead, the latest first, with their number. -/
structure Searcher where
  tasks : List Task
  here : SearchPlace
  choices : List Choice
  depth : Nat

inductive SearchStep where
  | next (s : Searcher)
  /-- This way fails; `choices` are left. -/
  | fail (choices : List Choice) (depth : Nat)
  | found
  | limit

namespace Searcher

/-- The largest number of choices that wait. -/
def choiceLimit : Nat := 1000000

/-- The largest number of choices that are taken. -/
def backtrackLimit : Nat := 1000000

/-- The search without the choices above the first `depth`. -/
def cut (s : Searcher) (depth : Nat) : Searcher :=
  { s with choices := s.choices.drop (s.depth - depth), depth := min depth s.depth }

def failed (s : Searcher) : SearchStep := .fail s.choices s.depth

def goOn (s : Searcher) (tasks : List Task) (place : Nat) : SearchStep :=
  .next { s with tasks, here := { s.here with place } }

def goOnIf (s : Searcher) (condition : Bool) (tasks : List Task) : SearchStep :=
  if condition then s.goOn tasks s.here.place else s.failed

/-- Goes on with some tasks, and keeps others as a choice. -/
def branch (s : Searcher) (tasks other : List Task) : SearchStep :=
  if s.depth < choiceLimit then
    .next { s with tasks, choices := ⟨other, s.here⟩ :: s.choices, depth := s.depth + 1 }
  else .limit

/-- Does some tasks and `rest`, or `rest` alone where the repetition may end. -/
def repeatOrEnd (s : Searcher) (greedy mayEnd : Bool) (again rest : List Task) : SearchStep :=
  if !mayEnd then s.goOn again s.here.place
  else if greedy then s.branch again rest
  else s.branch rest again

/-- The place behind what a group has matched last, if that stands here again. -/
def behindReference? (s : Searcher) (text : Array Char) (index : Nat) : Option Nat := do
  let start ← (s.here.starts[index]?).join
  let stop ← (s.here.ends[index]?).join
  if stop < start then none
  else
    let cs := (text.extract start stop).toList
    if Pattern.standsAt text cs s.here.place then some (s.here.place + cs.length) else none

/-- Starts an action, behind which `rest` is to be done. -/
def act (text : Array Char) (s : Searcher) (rest : List Task) : Action → SearchStep
  | .text cs =>
    if Pattern.standsAt text cs s.here.place then s.goOn rest (s.here.place + cs.length) else s.failed
  | .any newline =>
    if text[s.here.place]?.any fun c => newline || c ≠ '\n' then s.goOn rest (s.here.place + 1) else s.failed
  | .anchor a => s.goOnIf (a.holds (Pattern.before? text s.here.place) text[s.here.place]?) rest
  | .plain p =>
    match p.endAt? text s.here.place with
    | some i => s.goOn rest i
    | none => s.failed
  | .sequence as => s.goOn (as.map .act ++ rest) s.here.place
  | .choice [] => s.failed
  | .choice [a] => s.goOn (.act a :: rest) s.here.place
  | .choice (a :: as) => s.branch (.act a :: rest) (.act (.choice as) :: rest)
  | .group i a =>
    let here := { s.here with starts := s.here.starts.setIfInBounds i (some s.here.place) }
    .next { s with tasks := .act a :: .endGroup i :: rest, here }
  | .rounds a least most greedy => s.goOn (.round a least most greedy 0 :: rest) s.here.place
  | .idleRounds a least greedy => s.goOn (.idleRound a least greedy 0 none :: rest) s.here.place
  | .look positive back a =>
    let place := s.here.place
    if positive then
      if place < back then s.failed else s.goOn (.act a :: .go place :: rest) (place - back)
    else
      match s.branch (.act a :: .refuse s.depth :: rest) rest with
      | .next s => if place < back then s.failed else s.goOn s.tasks (place - back)
      | other => other
  | .atomic a => s.goOn (.act a :: .commit s.depth :: rest) s.here.place
  | .backreference i =>
    match s.behindReference? text i with
    | some place => s.goOn rest place
    | none => s.failed
  | .groupMatched i => s.goOnIf (s.here.starts[i]?.join.isSome) rest
  | .conditional condition yes no =>
    s.branch (.act condition :: .commit s.depth :: .act yes :: rest) (.act no :: rest)
  | .searchStart => s.goOnIf (s.here.place == 0) rest

def step (text : Array Char) (s : Searcher) : SearchStep :=
  match s.tasks with
  | [] => .found
  | .act a :: rest => act text s rest a
  | .round a least most greedy count :: rest =>
    if most = some count then s.goOn rest s.here.place
    else
      s.repeatOrEnd greedy (least ≤ count) (.act a :: .round a least most greedy (count + 1) :: rest) rest
  | .idleRound a least greedy count idle :: rest =>
    let place := s.here.place
    if 0 < count && idle == some place then s.failed
    else
      let idle := if least ≤ count then some place else idle
      s.repeatOrEnd greedy (least ≤ count) (.act a :: .idleRound a least greedy (count + 1) idle :: rest) rest
  | .endGroup i :: rest =>
    let here := { s.here with ends := s.here.ends.setIfInBounds i (some s.here.place) }
    .next { s with tasks := rest, here }
  | .go place :: rest => s.goOn rest place
  | .commit depth :: rest => (s.cut depth).goOn rest s.here.place
  | .refuse depth :: _ => (s.cut depth).failed

/-- Searches on; `backtracks` choices may be taken, in at most `fuel` steps. -/
def run (text : Array Char) : Nat → Nat → Searcher → Except SearchLimit Bool
  | 0, _, _ => .error .backtracks
  | fuel + 1, backtracks, s =>
    match s.step text with
    | .next s => run text fuel backtracks s
    | .found => .ok true
    | .limit => .error .choices
    | .fail [] _ => .ok false
    | .fail (c :: choices) depth =>
      match backtracks with
      | 0 => .error .backtracks
      | backtracks + 1 => run text fuel backtracks ⟨c.tasks, c.start, choices, depth - 1⟩

end Searcher

namespace Action

mutual
/-- A bound on the steps from one choice to the next in a text of `n` characters. -/
def stepBound (n : Nat) : Action → Nat
  | .sequence as => stepBounds n as + 1
  | .choice as => stepBounds n as + 1
  | .group _ a => stepBound n a + 2
  | .rounds a _ most _ => (stepBound n a + 1) * (most.getD n + 1) + 2
  | .idleRounds a least _ => (stepBound n a + 1) * (least + n + 2) + 2
  | .look _ _ a => stepBound n a + 2
  | .atomic a => stepBound n a + 2
  | .conditional condition yes no => stepBound n condition + stepBound n yes + stepBound n no + 2
  | _ => 1
termination_by structural a => a

def stepBounds (n : Nat) : List Action → Nat
  | [] => 0
  | a :: rest => stepBound n a + stepBounds n rest + 1
termination_by structural as => as
end

/-- Whether some part of a text matches. `groups` is the last group that is referred to. -/
def search (a : Action) (groups : Nat) (s : String) : Except SearchLimit Bool :=
  let text := s.toList.toArray
  let whole : Action := .sequence [.rounds (.any true) 0 none false, a]
  let unset := Array.replicate (groups + 1) none
  let fuel := (Searcher.backtrackLimit + 1) * (whole.stepBound text.size + 1)
  Searcher.run text fuel Searcher.backtrackLimit ⟨[.act whole], ⟨0, unset, unset⟩, [], 0⟩

end Action

end VarSchema
