import VarSchema.Condition.Basic
import VarSchema.Number.Text
import VarSchema.Pattern.Error

/-!
# Why a rule does not recognize a condition

* `Reason` : the causes, with the part of the condition that is at fault; `Reason.text` : its wording.
-/

namespace VarSchema

/-- Why a rule does not recognize a condition. -/
inductive Reason where
  /-- It is no call of `contains`. -/
  | notContains
  | itemNotConstant (item : Condition)
  | notAList
  /-- The second argument of `contains` is not the variable. -/
  | containsOther
  /-- Neither operand refers to the variable. -/
  | variableNotFound
  | valueNotConstant (value : Condition)
  /-- A comparison in a chain of equalities is no equality. -/
  | operatorNotEquality (op : Comparison)
  | conjunctionNotEquality
  | notEvaluable
  | noOptions
  | untyped
  | typeWithoutRange (type : String)
  | disjunctionNotRange
  | inequality
  | valueNotNumeric (value : Condition)
  | lengthOfNumber
  | directComparison (type : String)
  | equalityOfNumber
  | lengthOutOfRange (bound : Binary64)
  | lengthNotWhole (bound : Binary64)
  | negativeCount (keyword : String) (bound : Binary64)
  | typeWithoutPattern (type : Option String)
  /-- It is no call of `can`. -/
  | notCan
  /-- The argument of `can` is no call of `regex`. -/
  | notRegex
  /-- The second argument of `regex` is not the variable. -/
  | regexOther
  | patternNotConstant (pattern : Condition)
  | patternInvalid (pattern : String) (failure : PatternFailure)

def Reason.text : Reason → String
  | notContains => "condition is not a 'contains()' function"
  | itemNotConstant item => "value " ++ item.display ++ " in list is not a constant"
  | notAList => "first argument is not a list"
  | containsOther => "second argument is not a direct reference to the input variable"
  | variableNotFound => "variable name not found"
  | valueNotConstant value => "value " ++ value.display ++ " is not a constant"
  | operatorNotEquality op => "operator " ++ op.symbol ++ " is not || or =="
  | conjunctionNotEquality => "operator && is not || or =="
  | notEvaluable => "could not evaluate expression"
  | noOptions => "no options found"
  | untyped => "node has no concrete type"
  | typeWithoutRange t => "type " ++ t ++ " does not support range constraints"
  | disjunctionNotRange => "operator || is not &&"
  | inequality => "operator != cannot be expressed as a range"
  | valueNotNumeric value => "value " ++ value.display ++ " is not a numeric constant"
  | lengthOfNumber => "length() is not defined for type number"
  | directComparison t => "direct comparison is only supported for type number, not " ++ t
  | equalityOfNumber => "direct == on a number is left to the equality rule"
  | lengthOutOfRange v => "length bound " ++ v.text ++ " is out of range"
  | lengthNotWhole v => "length bound " ++ v.text ++ " is not an integer"
  | negativeCount keyword v => keyword ++ " would be negative (" ++ v.text ++ ")"
  | typeWithoutPattern t =>
    "regex is only supported for type string, not " ++ t.getD "untyped"
  | notCan => "condition is not a 'can()' function"
  | notRegex => "argument of can() is not a 'regex()' function"
  | regexOther => "second argument of regex() is not the input variable"
  | patternNotConstant p => "pattern " ++ p.display ++ " is not a constant string"
  | patternInvalid p e => "invalid regex pattern: " ++ e.detail p

end VarSchema
