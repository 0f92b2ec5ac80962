import VarSchema.Rule.Reason
import VarSchema.Schema.Node

/-!
# Conditions that bound a number or a length

`a <= var.x && length(var.x) < b`, in any grouping, gives the bounds of this table:

| type | `>` | `>=` | `<` | `<=` | `==` |
|---|---|---|---|---|---|
| number | exclusiveMinimum | minimum | exclusiveMaximum | maximum | none |
| array | minItems + 1 | minItems | maxItems - 1 | maxItems | both |
| object | minProperties + 1 | minProperties | maxProperties - 1 | maxProperties | both |
| string | minLength + 1 | minLength | maxLength - 1 | maxLength | both |

* `Range.oriented` : a comparison with the variable on its left;
* `Range.bounds` : the bounds of a condition, in order; `Range.tightest` : the tightest of each keyword;
* `Range.ofComparisons` : the rule.
-/

namespace VarSchema

abbrev Bound := String × Binary64

namespace Range

def boundJson (v : Binary64) : Json :=
  match Number.ofBinary64? v with
  | some n => .num n
  | none => .null

/-- Adds a bound, unless the one at its keyword is as tight. -/
def addBound (n : Node) (b : Bound) : Node :=
  match Side.ofKeyword? b.1, n.number? b.1 with
  | some side, some current =>
    if side.tighter current b.2 then n.set b.1 (boundJson b.2) else n
  | _, _ => n.set b.1 (boundJson b.2)

/-- The tightest bound of each keyword. -/
def tightest (bounds : List Bound) : Node := bounds.foldl addBound Node.empty

def refers (name : String) (c : Condition) : Bool := c.isVar name || c.isLengthOf name

/-- Operator, subject and bound of a comparison; if only the right operand refers to the variable, the
operands change places. -/
def oriented (name : String) (op : Comparison) (lhs rhs : Condition) :
    Comparison × Condition × Condition :=
  if refers name rhs && !refers name lhs then (op.mirrored, rhs, lhs) else (op, lhs, rhs)

def ofNumber (op : Comparison) (v : Binary64) : Except Reason (List Bound) :=
  match op with
  | .gt => .ok [("exclusiveMinimum", v)]
  | .ge => .ok [("minimum", v)]
  | .lt => .ok [("exclusiveMaximum", v)]
  | .le => .ok [("maximum", v)]
  | .eq => .error .equalityOfNumber
  | .ne => .error .inequality

/-- The keywords that bound the length of a type. -/
def countKeywords (type : String) : String × String :=
  if type = "array" then ("minItems", "maxItems")
  else if type = "object" then ("minProperties", "maxProperties")
  else ("minLength", "maxLength")

/-- The bounds of a length. Strict bounds are shifted by one, since a length is whole. -/
def countBounds (op : Comparison) (x : Binary64.Finite) (keywords : String × String) :
    Except Reason (List Bound) :=
  match op with
  | .gt => .ok [(keywords.1, x.shift 1)]
  | .ge => .ok [(keywords.1, .finite x)]
  | .lt => .ok [(keywords.2, x.shift (-1))]
  | .le => .ok [(keywords.2, .finite x)]
  | .eq => .ok [(keywords.1, .finite x), (keywords.2, .finite x)]
  | .ne => .error .inequality

/-- The bounds of a length, none of them negative. -/
def ofLength (op : Comparison) (v : Binary64) (type : String) : Except Reason (List Bound) :=
  match v with
  | .finite x =>
    if Number.wholeLimit * Binary64.one ≤ x.magnitude then .error (.lengthOutOfRange v)
    else if !x.isWhole then .error (.lengthNotWhole v)
    else
      match countBounds op x (countKeywords type) with
      | .error e => .error e
      | .ok bounds =>
        match bounds.find? fun b => b.2.isNegative with
        | some (keyword, bound) => .error (.negativeCount keyword bound)
        | none => .ok bounds
  | _ => .error (.lengthOutOfRange v)

def ofSubject (type : String) (isLength : Bool) (op : Comparison) (v : Binary64) :
    Except Reason (List Bound) :=
  if type = "number" then if isLength then .error .lengthOfNumber else ofNumber op v
  else if isLength then ofLength op v type
  else .error (.directComparison type)

def ofComparison (name type : String) (op : Comparison) (lhs rhs : Condition) :
    Except Reason (List Bound) :=
  let (op, subject, bound) := oriented name op lhs rhs
  if op = .ne then .error .inequality
  else if !refers name subject then .error .variableNotFound
  else
    match bound.literalValue?.bind Json.number? with
    | none => .error (.valueNotNumeric bound)
    | some n => ofSubject type (!subject.isVar name) op n.toBinary64

/-- The bounds of a conjunction of comparisons, from left to right. -/
def bounds (name type : String) : Condition → Except Reason (List Bound)
  | .and l r =>
    match bounds name type l with
    | .error e => .error e
    | .ok bs => (bounds name type r).map (bs ++ ·)
  | .paren inner => bounds name type inner
  | .compare op l r => ofComparison name type op l r
  | .or _ _ => .error .disjunctionNotRange
  | _ => .error .notEvaluable
termination_by structural c => c

def types : List String := ["number", "array", "object", "string"]

def ofComparisons (name : String) (type : Option String) (c : Condition) : Except Reason Node :=
  match type with
  | none => .error .untyped
  | some t => if types.contains t then (bounds name t c).map tightest else .error (.typeWithoutRange t)

end Range

end VarSchema
