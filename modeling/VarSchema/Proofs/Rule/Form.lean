import VarSchema.Proofs.Rule.Counts
import VarSchema.Proofs.Schema.Form

/-!
# The form of the keywords of conditions

* `Condition.HasNumbersInRange`, `Number.exists_finite_of_inRange` : the numbers that a JSON text can hold are read as
  finite ones; `Range.isFormed_of_bounds` : so a bound has the form of its keyword;
* `Condition.pattern?`, `Rule.pattern_of_ofRegexCall` : the pattern of a condition, which has been compiled;
* `Condition.formedAt_of_toDelta` : every keyword of a condition has its form.
-/

namespace VarSchema

/-! ## Bounds -/

theorem Number.exists_finite_of_inRange {n : Number} (h : n.InRange) :
    ∃ x : Binary64.Finite, n.toBinary64 = .finite x := by
  cases n with
  | float x => exact ⟨x, rfl⟩
  | integer i =>
    obtain ⟨hlower, hupper⟩ := h
    have hlimits : wordLimit = twoPow 64 ∧ wholeLimit ≤ twoPow 64 := by decide +kernel
    exact Binary64.exists_finite_of_ofInt (by omega)

/-- The numbers compared inside are ones that a JSON text can hold. -/
def Condition.HasNumbersInRange (c : Condition) : Prop :=
  ∀ op l r, (op, l, r) ∈ c.comparisons → ∀ n : Number,
    l.literalValue? = some (.num n) ∨ r.literalValue? = some (.num n) → n.InRange

namespace Range

/-- The number of a bound is one that a JSON text can hold. -/
theorem inRange_of_oriented {name : String} {op op' : Comparison} {l r s bound c : Condition} {n : Number}
    (hrange : c.HasNumbersInRange) (hmem : (op, l, r) ∈ c.comparisons) (h : oriented name op l r = (op', s, bound))
    (hliteral : bound.literalValue? = some (.num n)) : n.InRange := by
  rcases oriented_cases h with ⟨-, -, rfl⟩ | ⟨-, -, rfl⟩
  · exact hrange op l bound hmem n (.inr hliteral)
  · exact hrange op bound r hmem n (.inl hliteral)

theorem isFormed_of_ofNumber {op : Comparison} {x : Binary64.Finite} {bs : List Bound}
    (h : ofNumber op (.finite x) = .ok bs) : ∀ b ∈ bs, Schema.isFormed b.1 (boundJson b.2) = true := by
  cases op <;> cases h <;> exact List.forall_mem_singleton.2 rfl

/-- A bound has the form of its keyword. -/
theorem isFormed_of_bounds {name type : String} {c : Condition} {bs : List Bound} (h : bounds name type c = .ok bs)
    (hrange : c.HasNumbersInRange) : ∀ b ∈ bs, Schema.isFormed b.1 (boundJson b.2) = true := by
  intro b hb
  obtain ⟨op, l, r, hmem, part, hpart, hbpart⟩ := exists_comparison h b hb
  obtain ⟨op', s, bound, n, horiented, hliteral, ⟨-, -, hnumber⟩ | ⟨-, -, hlength⟩⟩ := ofComparison_eq_ok hpart
  · obtain ⟨x, hx⟩ := Number.exists_finite_of_inRange (inRange_of_oriented hrange hmem horiented hliteral)
    rw [hx] at hnumber
    exact isFormed_of_ofNumber hnumber b hbpart
  · obtain ⟨i, hi, -⟩ := ofLength_count hlength b hbpart
    rw [hi]
    exact Schema.isFormed_bound (ofLength_keyword hlength b hbpart) i

end Range

/-! ## Patterns -/

/-- The pattern that a condition matches a text with. -/
def Condition.pattern? (c : Condition) : Option String :=
  match Rule.regexArgs c with
  | .ok (pattern, _) => pattern.literalValue?.bind Json.text?
  | .error _ => none

theorem Rule.pattern_of_ofRegexCall {name : String} {type : Option String} {c : Condition} {d : Node}
    (h : ofRegexCall name type c = .ok d) :
    ∃ p, c.pattern? = some p ∧ (Pattern.ofText p).isOk = true ∧ d = Node.empty.set "pattern" (.str p) := by
  unfold ofRegexCall at h
  split at h
  · cases h
  split at h
  · cases h
  next pattern subject hargs =>
  split at h
  · cases h
  split at h
  · next p hp =>
    split at h
    · cases h
    next q hq =>
    cases h
    exact ⟨p, by rw [Condition.pattern?, hargs]; simp only [hp]; rfl, by rw [hq]; rfl, rfl⟩
  · cases h

/-! ## Every condition -/

namespace Condition

/-- What compiles for the conditions' matching also does for validation. -/
def HasKnownPattern (c : Condition) : Prop :=
  ∀ p, c.pattern? = some p → (Pattern.ofText p).isOk = true → (SchemaPattern.ofText? p).isSome = true

variable {name : String} {n d : Node} {c : Condition}

/-- Every keyword of a condition has its form. -/
theorem formedAt_of_toDelta (h : c.toDelta name n = .ok d) (hrange : c.HasNumbersInRange)
    (hpattern : c.HasKnownPattern) (k : String) : Schema.FormedAt d k := by
  obtain ⟨r, hr⟩ := recognize_of_toDelta h
  cases r with
  | membership =>
    obtain ⟨values, rfl, -⟩ := Enumeration.ofMembership_holds hr
    exact Schema.formedAt_set_empty rfl k
  | equalityChain =>
    obtain ⟨values, rfl, -⟩ := Enumeration.ofEqualities_holds hr
    exact Schema.formedAt_set_empty rfl k
  | rangeChain =>
    obtain ⟨t, bs, -, -, hbs, rfl⟩ := Range.ofComparisons_eq_ok hr
    intro w hw
    obtain ⟨b, hb, rfl, rfl⟩ := Range.exists_bound hw
    exact Range.isFormed_of_bounds hbs hrange b hb
  | regexCall =>
    obtain ⟨p, hp, hcompiles, rfl⟩ := Rule.pattern_of_ofRegexCall hr
    have hform : Schema.isFormed "pattern" (.str p) = true := hpattern p hp hcompiles
    exact Schema.formedAt_set_empty hform k

end Condition

end VarSchema
