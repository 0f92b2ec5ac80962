import VarSchema.Pattern.OfText
import VarSchema.Rule.Enumeration
import VarSchema.Rule.Range

/-!
# Translation rules

* `Rule` : the shapes of conditions that have a schema; `Rule.recognize` : the keywords of a condition of
  that shape, or why it has another;
* `Condition.toDelta` : the keywords of the first rule that recognizes a condition;
* `NotApplicable` : a condition that no rule recognizes, with every rule's reason; `NotApplicable.details`
  lists them, one line for each rule;
* `Node.apply` : merges a condition's keywords into a node.
-/

namespace VarSchema

/-- A shape of conditions that has a schema. -/
inductive Rule where
  | membership
  | equalityChain
  | rangeChain
  | regexCall
deriving DecidableEq

namespace Rule

/-- The rules in the order in which they are tried. -/
def all : List Rule := [membership, equalityChain, rangeChain, regexCall]

def name : Rule → String
  | membership => "Membership"
  | equalityChain => "EqualityChain"
  | rangeChain => "RangeChain"
  | regexCall => "RegexCall"

def shape : Rule → String
  | membership => "contains([...], var.input_parameter)"
  | equalityChain => "var == \"a\" || var == \"b\""
  | rangeChain => "a <>= (variable or variable length) (&& ...)"
  | regexCall => "can(regex(\"...\", var.input_parameter))"

/-- The arguments of `can(regex(pattern, subject))`. -/
def regexArgs (c : Condition) : Except Reason (Condition × Condition) :=
  match c.callArgs? "can" 1 with
  | some [inner] =>
    match inner.callArgs? "regex" 2 with
    | some [pattern, subject] => .ok (pattern, subject)
    | _ => .error .notRegex
  | _ => .error .notCan

/-- A text that has to match a constant pattern. -/
def ofRegexCall (name : String) (type : Option String) (c : Condition) : Except Reason Node :=
  if type ≠ some "string" then .error (.typeWithoutPattern type)
  else
    match regexArgs c with
    | .error e => .error e
    | .ok (pattern, subject) =>
      if !subject.isVar name then .error .regexOther
      else
        match pattern.literalValue? with
        | some (.str p) =>
          match Pattern.ofText p with
          | .error e => .error (.patternInvalid p e)
          | .ok _ => .ok (Node.empty.set "pattern" (.str p))
        | _ => .error (.patternNotConstant pattern)

/-- The keywords of a condition of this shape on a node of type `type`. -/
def recognize (r : Rule) (name : String) (type : Option String) (c : Condition) :
    Except Reason Node :=
  match r with
  | membership => Enumeration.ofMembership name c
  | equalityChain => Enumeration.ofEqualities name c
  | rangeChain => Range.ofComparisons name type c
  | regexCall => ofRegexCall name type c

end Rule

structure Rejection where
  rule : Rule
  reason : Reason

def Rejection.line (r : Rejection) : String := "  " ++ r.rule.shape ++ ": " ++ r.reason.text

/-- A condition that no rule recognizes, with each rule's reason. -/
structure NotApplicable where
  condition : Condition
  rejections : List Rejection

namespace NotApplicable

def message (e : NotApplicable) : String :=
  "no translation rules are supported for condition `" ++ e.condition.display ++ "`"

/-- Every rejection on a line of its own. -/
def details (e : NotApplicable) : String := "\n".intercalate (e.rejections.map Rejection.line)

def reason? (e : NotApplicable) (r : Rule) : Option Reason :=
  (e.rejections.find? fun x => x.rule == r).map Rejection.reason

end NotApplicable

namespace Condition

/-- The keywords of the first of some rules that recognizes the condition, or each rule's reason. -/
def firstDelta (name : String) (type : Option String) (c : Condition) :
    List Rule → Except (List Rejection) Node
  | [] => .error []
  | r :: rest =>
    match r.recognize name type c with
    | .ok delta => .ok delta
    | .error reason => (firstDelta name type c rest).mapError (⟨r, reason⟩ :: ·)

/-- The keywords of a condition on the variable of a node. -/
def toDelta (name : String) (n : Node) (c : Condition) : Except NotApplicable Node :=
  (firstDelta name n.typeName? c Rule.all).mapError fun rejections => ⟨c, rejections⟩

end Condition

def Node.apply (name : String) (c : Condition) (n : Node) : Except NotApplicable Node :=
  (c.toDelta name n).map n.merge

end VarSchema
