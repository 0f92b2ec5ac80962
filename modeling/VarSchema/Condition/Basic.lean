import VarSchema.Json.Printer

/-!
# Validation conditions

* `Comparison` : the comparison operators; `Comparison.mirrored` : the operator for swapped operands;
* `Condition` : the expressions of a validation block, constants already being JSON values;
* `Condition.unparen`, `isVar`, `isLengthOf`, `callArgs?`, `literalValue?` : the views by which rules
  read a condition, all of which see through parentheses;
* `Condition.display` : the condition as a configuration writes it.
-/

namespace VarSchema

inductive Comparison where
  | lt
  | le
  | gt
  | ge
  | eq
  | ne
deriving DecidableEq

namespace Comparison

/-- The operator that says the same of swapped operands. -/
def mirrored : Comparison → Comparison
  | lt => gt
  | le => ge
  | gt => lt
  | ge => le
  | eq => eq
  | ne => ne

def symbol : Comparison → String
  | lt => "<"
  | le => "<="
  | gt => ">"
  | ge => ">="
  | eq => "=="
  | ne => "!="

def all : List Comparison := [lt, le, gt, ge, eq, ne]

def ofSymbol? (s : String) : Option Comparison := all.find? fun op => op.symbol == s

theorem mirrored_mirrored (op : Comparison) : op.mirrored.mirrored = op := by cases op <;> rfl

end Comparison

/-- An expression of a validation block. -/
inductive Condition where
  | and (lhs rhs : Condition)
  | or (lhs rhs : Condition)
  | compare (op : Comparison) (lhs rhs : Condition)
  | call (name : String) (args : List Condition)
  | varRef (name : String)
  | length (target : Condition)
  | literal (value : Json)
  | list (items : List Condition)
  | paren (inner : Condition)

namespace Condition

instance : Inhabited Condition := ⟨.list []⟩

/-! ## Views -/

/-- The expression inside any number of parentheses. -/
def unparen : Condition → Condition
  | .paren inner => unparen inner
  | c => c
termination_by structural c => c

/-- Whether this is a direct reference to the variable. -/
def isVar (name : String) (c : Condition) : Bool :=
  match c.unparen with
  | .varRef n => n == name
  | _ => false

/-- The arguments of a call to `function`, if there are `arity` of them. -/
def callArgs? (function : String) (arity : Nat) (c : Condition) : Option (List Condition) :=
  match c.unparen with
  | .call name args => if name = function ∧ args.length = arity then some args else none
  | _ => none

/-- Whether this is the length of the variable, in either spelling. -/
def isLengthOf (name : String) (c : Condition) : Bool :=
  match c.unparen with
  | .length target => target.isVar name
  | e =>
    match e.callArgs? "length" 1 with
    | some (target :: _) => target.isVar name
    | _ => false

mutual
/-- The value of a literal, or of a list of constants. -/
def literalValue? : Condition → Option Json
  | .literal v => some v
  | .list items => (literalValues? items).map .arr
  | .paren inner => literalValue? inner
  | _ => none
termination_by structural c => c

def literalValues? : List Condition → Option (List Json)
  | [] => some []
  | c :: rest =>
    match literalValue? c, literalValues? rest with
    | some v, some vs => some (v :: vs)
    | _, _ => none
termination_by structural cs => cs
end

/-! ## Text -/

mutual
/-- The condition as a configuration writes it. -/
def display : Condition → String
  | .and l r => display l ++ " && " ++ display r
  | .or l r => display l ++ " || " ++ display r
  | .compare op l r => display l ++ " " ++ op.symbol ++ " " ++ display r
  | .call name args => name ++ "(" ++ ", ".intercalate (displayItems args) ++ ")"
  | .varRef name => "var." ++ name
  | .length target => "length(" ++ display target ++ ")"
  | .literal v => v.compact
  | .list items => "[" ++ ", ".intercalate (displayItems items) ++ "]"
  | .paren inner => "(" ++ display inner ++ ")"
termination_by structural c => c

def displayItems : List Condition → List String
  | [] => []
  | c :: rest => display c :: displayItems rest
termination_by structural cs => cs
end

/-! ## Equality -/

mutual
def same : Condition → Condition → Bool
  | .and a b, .and c d => same a c && same b d
  | .or a b, .or c d => same a c && same b d
  | .compare p a b, .compare q c d => p == q && same a c && same b d
  | .call n xs, .call m ys => n == m && sameItems xs ys
  | .varRef n, .varRef m => n == m
  | .length a, .length b => same a b
  | .literal v, .literal w => decide (v = w)
  | .list xs, .list ys => sameItems xs ys
  | .paren a, .paren b => same a b
  | _, _ => false
termination_by structural c => c

def sameItems : List Condition → List Condition → Bool
  | [], [] => true
  | x :: xs, y :: ys => same x y && sameItems xs ys
  | _, _ => false
termination_by structural cs => cs
end

mutual
theorem same_iff : ∀ a b : Condition, same a b = true ↔ a = b
  | .and a b, c => by cases c <;> simp [same, same_iff a, same_iff b]
  | .or a b, c => by cases c <;> simp [same, same_iff a, same_iff b]
  | .compare _ a b, c => by cases c <;> simp [same, same_iff a, same_iff b, and_assoc]
  | .call _ xs, c => by cases c <;> simp [same, sameItems_iff xs]
  | .varRef _, c => by cases c <;> simp [same]
  | .length a, c => by cases c <;> simp [same, same_iff a]
  | .literal _, c => by cases c <;> simp [same]
  | .list xs, c => by cases c <;> simp [same, sameItems_iff xs]
  | .paren a, c => by cases c <;> simp [same, same_iff a]
termination_by structural c => c

theorem sameItems_iff : ∀ xs ys : List Condition, sameItems xs ys = true ↔ xs = ys
  | [], ys => by cases ys <;> simp [sameItems]
  | x :: xs, ys => by cases ys <;> simp [sameItems, same_iff x, sameItems_iff xs]
termination_by structural cs => cs
end

instance : DecidableEq Condition := fun a b => decidable_of_iff (same a b = true) (same_iff a b)

end Condition

end VarSchema
