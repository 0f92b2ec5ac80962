import VarSchema.ExtendedPattern.Basic
import VarSchema.Pattern.Match
import VarSchema.Pattern.OfText

/-!
# Actions of extended patterns

* `Action` : what is done to match an extended pattern: steps from place to place, choices in order, and rounds
  of repetitions;
* `ExtendedPattern.toAction?` : the action of a pattern, if there is one. Neighbouring plain parts of fixed length
  at the start and at the end of a sequence are matched as one plain pattern. A look behind needs a fixed
  length, of which the branches of alternatives may each have their own.

Inside a part that is matched place by place, every choice is taken again when what follows fails. Elsewhere a
plain part is matched as a whole, and only its preferred match is tried.
-/

namespace VarSchema

/-- What is done to match a pattern. -/
inductive Action where
  | text (cs : List Char)
  | any (newline : Bool)
  | anchor (a : Anchor)
  /-- Goes to the end of the preferred match. -/
  | plain (p : Pattern)
  | sequence (as : List Action)
  | choice (as : List Action)
  /-- Records where a group starts and ends. -/
  | group (index : Nat) (a : Action)
  /-- At least `least` rounds and at most `most`. -/
  | rounds (a : Action) (least : Nat) (most : Option Nat) (greedy : Bool)
  /-- At least `least` rounds, where a round may stay at its place and then is not repeated. -/
  | idleRounds (a : Action) (least : Nat) (greedy : Bool)
  /-- Goes back some characters and acts there; then the place is as before. -/
  | look (positive : Bool) (back : Nat) (a : Action)
  /-- Acts, and takes no choice again that was made meanwhile. -/
  | atomic (a : Action)
  | backreference (index : Nat)
  | groupMatched (index : Nat)
  | conditional (condition yes no : Action)
  | searchStart

namespace Action

instance : Inhabited Action := ⟨.sequence []⟩

end Action

namespace ExtendedPattern

/-- The plain pattern of some plain parts in sequence, or their text. -/
def plainAction? (ps : List ExtendedPattern) : Option Action :=
  match literalTexts? ps with
  | some cs => some (.text cs)
  | none => (Pattern.ofChars (ps.flatMap (plainText 1))).toOption.map .plain

/-- Like `plainAction?`, but nothing for no parts. -/
def plainActions? (ps : List ExtendedPattern) : Option (List Action) :=
  if ps.isEmpty then some [] else (plainAction? ps).map fun a => [a]

section Sequences

variable (referred : List Nat)

def isPlainFixed (p : ExtendedPattern) : Bool := hasFixedLength p && isPlain referred p

/-- The number of parts at the start of a sequence that are matched as one. -/
def startCount (ps : List ExtendedPattern) : Nat := (ps.takeWhile (isPlainFixed referred)).length

/-- The number of parts at the end of a sequence, behind those at its start, that are matched as one. Where the
sequence is not matched place by place they need no fixed length. -/
def endCount (stepwise : Bool) (ps : List ExtendedPattern) : Nat :=
  let joined := if stepwise then isPlainFixed referred else isPlain referred
  ((ps.drop (startCount referred ps)).reverse.takeWhile joined).length

end Sequences

/-- Looks at each of some patterns: one has to match, or none. -/
def looks (positive : Bool) (as : List (Nat × Action)) : Action :=
  let each := as.map fun (back, a) => Action.look positive back a
  if positive then .choice each else .sequence each

/-- The rounds of a repetition; a repeated part that can match nothing may idle. -/
def roundsOf (p : ExtendedPattern) (a : Action) (least : Nat) (most : Option Nat) (greedy : Bool) : Action :=
  if most.isNone && leastLength p = 0 then .idleRounds a least greedy else .rounds a least most greedy

mutual
/-- The action of a pattern. A part that is `stepwise` is matched place by place even if it is plain. -/
def toAction? (referred : List Nat) (stepwise : Bool) (p : ExtendedPattern) : Option Action :=
  if !stepwise && isPlain referred p then plainAction? [p]
  else
    match p with
    | .empty => some (.sequence [])
    | .any newline => some (.any newline)
    | .literal c ignoreCase => if ignoreCase then plainAction? [p] else some (.text [c])
    | .anchor a => some (.anchor a)
    | .plain _ _ _ => plainAction? [p]
    | .sequence ps => do
      let first := startCount referred ps
      let last := endCount referred stepwise ps
      let start ← plainActions? (ps.take first)
      let middle ← middleActions? referred first (ps.length - first - last) ps
      let stop ← plainActions? (ps.drop (ps.length - last))
      return .sequence (start ++ middle ++ stop)
    | .alternatives ps => (eachAction? referred stepwise ps).map .choice
    | .group i p =>
      (toAction? referred stepwise p).map fun a => if referred.contains i then .group i a else a
    | .repeated p least most greedy =>
      let inside := if least = 0 ∧ most = some 1 then stepwise else stepwise || !isPlain referred p
      (toAction? referred inside p).map fun a => roundsOf p a least most greedy
    | .look direction positive p =>
      if direction = .behind && !hasFixedLength p then (branchLooks? referred p).map (looks positive)
      else do
        let back := if direction = .behind then leastLength p else 0
        return .look positive back (← toAction? referred false p)
    | .atomic p => (toAction? referred false p).map .atomic
    | .backreference i => some (.backreference i)
    | .groupMatched i => some (.groupMatched i)
    | .conditional condition yes no => do
      let condition ← toAction? referred stepwise condition
      let yes ← toAction? referred stepwise yes
      let no ← toAction? referred stepwise no
      return .conditional condition yes no
    | .keepOut => some (.sequence [])
    | .searchStart => some .searchStart
termination_by structural p

def eachAction? (referred : List Nat) (stepwise : Bool) : List ExtendedPattern → Option (List Action)
  | [] => some []
  | p :: rest => do
    let a ← toAction? referred stepwise p
    let as ← eachAction? referred stepwise rest
    return a :: as
termination_by structural ps => ps

/-- The actions of `count` patterns of a sequence behind the first `before`. -/
def middleActions? (referred : List Nat) (before count : Nat) : List ExtendedPattern → Option (List Action)
  | [] => some []
  | p :: rest =>
    match before, count with
    | before + 1, count => middleActions? referred before count rest
    | 0, 0 => some []
    | 0, count + 1 => do
      let a ← toAction? referred true p
      let as ← middleActions? referred 0 count rest
      return a :: as
termination_by structural ps => ps

/-- How far to go back for each branch of alternatives, and its action. -/
def branchLooks? (referred : List Nat) : ExtendedPattern → Option (List (Nat × Action))
  | .alternatives ps => eachLook? referred ps
  | _ => none
termination_by structural p => p

/-- How far to go back for each of some patterns of fixed lengths, and its action. -/
def eachLook? (referred : List Nat) : List ExtendedPattern → Option (List (Nat × Action))
  | [] => some []
  | p :: rest =>
    if hasFixedLength p then do
      let a ← toAction? referred false p
      let as ← eachLook? referred rest
      return (leastLength p, a) :: as
    else none
termination_by structural ps => ps
end

end ExtendedPattern

end VarSchema
