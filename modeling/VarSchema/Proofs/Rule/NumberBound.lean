import VarSchema.Proofs.Rule.Form
import VarSchema.Proofs.Rule.Recognition

/-!
# The number that bounds a variable

A comparison of a variable of type number with a literal gives one keyword. Its value is the binary64 reading of the
literal, so it is the literal's number exactly if that is a binary64 number.

* `Number.isExact_iff_exists` : a number is read exactly if and only if some binary64 has its value;
* `Range.numberKeyword?`, `Range.ofNumber_eq_ok_iff` : the keyword of an operator;
* `Range.Relates`, `Range.ofComparison_of_relates` : a comparison of the variable with a number, on either side, and
  its bound;
* `Range.recognize_number_bound` : the keyword and its value; `Range.recognize_number_rounded` : a whole number that is
  none of binary64 is rounded.
-/

namespace VarSchema

/-- A number is read exactly if and only if some binary64 has its value. -/
theorem Number.isExact_iff_exists {n : Number} : n.isExact = true ↔ ∃ x : Binary64.Finite, x.toUnits = n.toUnits := by
  constructor
  · intro h
    obtain ⟨x, -, hx⟩ := isExact_iff.1 h
    exact ⟨x, hx⟩
  · rintro ⟨x, hx⟩
    cases n with
    | float y => exact isExact_float y
    | integer i =>
      refine isExact_iff.2 ?_
      show ∃ y, Binary64.ofUnits (integer i).toUnits = .finite y ∧ y.toUnits = (integer i).toUnits
      rw [← hx]
      exact Binary64.ofUnits_of_representable (Binary64.representable_natAbs x)

namespace Range

variable {name k : String} {op op' : Comparison} {l r : Condition} {n : Number} {v : Binary64} {bs : List Bound}

/-! ## Keywords of operators -/

/-- The keyword of a comparison of a number that has the variable on its left. -/
def numberKeyword? : Comparison → Option String
  | .gt => some "exclusiveMinimum"
  | .ge => some "minimum"
  | .lt => some "exclusiveMaximum"
  | .le => some "maximum"
  | .eq => none
  | .ne => none

theorem ofNumber_eq_ok_iff : ofNumber op v = .ok bs ↔ ∃ k, numberKeyword? op = some k ∧ bs = [(k, v)] := by
  cases op <;> simp [ofNumber, numberKeyword?, eq_comm]

theorem isSome_numberKeyword?_mirrored : (numberKeyword? op.mirrored).isSome = (numberKeyword? op).isSome := by
  cases op <;> rfl

/-- A single bound is its keyword. -/
theorem tightest_singleton (b : Bound) : tightest [b] = Node.empty.set b.1 (boundJson b.2) := by
  have hnone : Node.empty.number? b.1 = none := rfl
  show addBound Node.empty b = _
  unfold addBound
  rw [hnone]
  cases Side.ofKeyword? b.1 <;> rfl

/-! ## Comparisons with a number -/

/-- The comparison relates the variable, on either side, to a number; `op'` is the operator when the variable stands on
the left. -/
def Relates (name : String) (op : Comparison) (l r : Condition) (op' : Comparison) (n : Number) : Prop :=
  (op' = op ∧ l.isVar name = true ∧ r.literalValue? = some (.num n)) ∨
    (op' = op.mirrored ∧ r.isVar name = true ∧ l.literalValue? = some (.num n))

/-- Either way it bounds the variable. -/
theorem Relates.isSome_numberKeyword? (h : Relates name op l r op' n) (hop : op ∈ [.lt, .le, .gt, .ge]) :
    ∃ k, numberKeyword? op' = some k := by
  have hsome : (numberKeyword? op).isSome = true := by
    revert hop
    cases op <;> decide
  rcases h with ⟨rfl, -⟩ | ⟨rfl, -⟩
  · exact Option.isSome_iff_exists.1 hsome
  · exact Option.isSome_iff_exists.1 (isSome_numberKeyword?_mirrored.trans hsome)

theorem bounds_of_isVar (hvar : l.isVar name = true) (hr : r.literalValue? = some (.num n))
    (hk : numberKeyword? op = some k) : Bounds name "number" op l r [(k, n.toBinary64)] := by
  have hne : op ≠ .ne := by
    rintro rfl
    cases hk
  have hnumber : ofNumber op n.toBinary64 = .ok [(k, n.toBinary64)] := ofNumber_eq_ok_iff.2 ⟨k, hk, rfl⟩
  refine ⟨hne, by rw [refers, hvar, Bool.true_or], n, hr, ?_⟩
  rw [ofSubject, if_pos rfl, hvar]
  exact hnumber

theorem ofComparison_of_relates (h : Relates name op l r op' n) (hk : numberKeyword? op' = some k) :
    ofComparison name "number" op l r = .ok [(k, n.toBinary64)] := by
  rw [ofComparison_eq_ok_iff]
  rcases h with ⟨rfl, hvar, hliteral⟩ | ⟨rfl, hvar, hliteral⟩
  · exact .inl (bounds_of_isVar hvar hliteral hk)
  · exact .inr (bounds_of_isVar hvar hliteral hk)

theorem recognize_of_relates (h : Relates name op l r op' n) (hk : numberKeyword? op' = some k) :
    Rule.rangeChain.recognize name (some "number") (.compare op l r) =
      .ok (Node.empty.set k (boundJson n.toBinary64)) := by
  have hbounds : bounds name "number" (.compare op l r) = .ok [(k, n.toBinary64)] := ofComparison_of_relates h hk
  refine ofComparisons_eq_ok_iff.2 ⟨"number", _, rfl, by decide, hbounds, ?_⟩
  rw [tightest_singleton]

/-- **A comparison of a number has one keyword, that of its operator, whose value is the binary64 reading of the
literal. It is the literal's number if and only if some binary64 has that value.** -/
theorem recognize_number_bound (h : Relates name op l r op' n) (hop : op ∈ [.lt, .le, .gt, .ge]) (hrange : n.InRange) :
    ∃ k m x, numberKeyword? op' = some k ∧
      Rule.rangeChain.recognize name (some "number") (.compare op l r) = .ok (Node.empty.set k (.num m)) ∧
      n.toBinary64 = .finite x ∧ m.toUnits = x.toUnits ∧
      (m.equal n = true ↔ ∃ y : Binary64.Finite, y.toUnits = n.toUnits) := by
  obtain ⟨k, hk⟩ := h.isSome_numberKeyword? hop
  obtain ⟨x, hx⟩ := Number.exists_finite_of_inRange hrange
  have hunits : (Number.ofFinite x).toUnits = x.toUnits := Number.toUnits_ofFinite x
  refine ⟨k, .ofFinite x, x, hk, ?_, hx, hunits, ?_⟩
  · rw [recognize_of_relates h hk, hx, boundJson_finite]
  · -- the reading has the value of the literal just if some binary64 has
    rw [← Number.isExact_iff_exists, Number.isExact_iff, Number.equal, beq_iff_eq, hunits, hx]
    simp

/-- The largest literal of 64 bits, on the left. -/
theorem recognize_number_bound_mirrored :
    let x : Condition := .paren (.varRef "x")
    let largest : Number := .integer 18446744073709551615
    Relates "x" .lt (.literal (.num largest)) x .gt largest ∧ largest.InRange ∧
      ∃ m, Rule.rangeChain.recognize "x" (some "number") (.compare .lt (.literal (.num largest)) x) =
        .ok (Node.empty.set "exclusiveMinimum" (.num m)) ∧ m.equal largest = false := by
  intro x largest
  have hrelates : Relates "x" .lt (.literal (.num largest)) x .gt largest := .inr ⟨rfl, rfl, rfl⟩
  have hrange : largest.InRange := ⟨by decide +kernel, by decide +kernel⟩
  have hrounded : largest.isExact = false := by decide +kernel
  obtain ⟨k, m, y, hk, hrecognize, -, -, hequal⟩ := recognize_number_bound hrelates (by decide) hrange
  cases hk
  refine ⟨hrelates, hrange, m, hrecognize, ?_⟩
  rw [← Bool.not_eq_true, hequal, ← Number.isExact_iff_exists, hrounded]
  exact Bool.false_ne_true

/-- The first whole number that is none of binary64 is bounded by the one before it. -/
theorem recognize_number_rounded :
    let n : Number := .integer 9007199254740993
    let rounded : Number := .integer 9007199254740992
    n.InRange ∧ Relates "x" .le (.varRef "x") (.literal (.num n)) .le n ∧
      Rule.rangeChain.recognize "x" (some "number") (.compare .le (.varRef "x") (.literal (.num n))) =
        .ok (Node.empty.set "maximum" (.num rounded)) ∧ rounded.equal n = false := by
  intro n rounded
  have hrelates : Relates "x" .le (.varRef "x") (.literal (.num n)) .le n := .inl ⟨rfl, rfl, rfl⟩
  have hread : boundJson n.toBinary64 = .num rounded := by decide +kernel
  refine ⟨⟨by decide +kernel, by decide +kernel⟩, hrelates, ?_, by decide +kernel⟩
  rw [recognize_of_relates hrelates (k := "maximum") rfl, hread]

end Range

end VarSchema
