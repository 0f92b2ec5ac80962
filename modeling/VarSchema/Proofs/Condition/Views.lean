import VarSchema.Condition.Meaning
import VarSchema.Proofs.Json.Equality
import VarSchema.Proofs.Number.Exact
import VarSchema.Rule.Range

/-!
# The views of a condition say what it means

* `Condition.value?_unparen`, `Condition.holds_unparen` : parentheses change nothing;
* `Condition.value?_of_isVar`, `value?_of_isLengthOf`, `value?_of_literalValue?` : what a rule reads as the
  variable, its length or a constant has the value of that;
* `Condition.hasExactLiterals` : the numbers that comparisons mention are binary64 numbers, and those
  compared with the variable's length are below `2 ^ 53`;
* `Comparison.holds_mirrored` : the mirrored operator says the same of swapped operands.
-/

namespace VarSchema

theorem Comparison.holds_mirrored (op : Comparison) (a b : Json) :
    op.mirrored.holds a b = op.holds b a := by
  cases op with
  | eq => exact Json.equal_comm a b
  | ne => exact congrArg (!·) (Json.equal_comm a b)
  | _ => cases a <;> cases b <;> rfl

namespace Condition

variable {name : String} {v : Json}

/-! ## Parentheses -/

theorem value?_unparen (c : Condition) : value? name v c.unparen = value? name v c := by
  fun_induction unparen c with
  | case1 inner ih => rw [ih, value?]
  | case2 => rfl

theorem holds_unparen (c : Condition) : holds name v c.unparen = holds name v c := by
  fun_induction unparen c with
  | case1 inner ih => rw [ih, holds]
  | case2 => rfl

theorem unparen_unparen (c : Condition) : c.unparen.unparen = c.unparen := by
  fun_induction unparen c with
  | case1 inner ih => exact ih
  | case2 c h => rw [unparen]; exact h

/-! ## Variable, length and constants -/

theorem unparen_eq_of_isVar {c : Condition} (h : c.isVar name = true) : c.unparen = .varRef name := by
  unfold isVar at h
  split at h
  · next n hn => rw [hn, eq_of_beq h]
  · cases h

theorem value?_of_isVar {c : Condition} (h : c.isVar name = true) : value? name v c = some v := by
  rw [← value?_unparen, unparen_eq_of_isVar h, value?, if_pos rfl]

theorem callArgs?_eq_some {f : String} {n : Nat} {c : Condition} {args : List Condition}
    (h : c.callArgs? f n = some args) : c.unparen = .call f args ∧ args.length = n := by
  unfold callArgs? at h
  split at h
  · next g xs hc =>
    split at h
    · next hg =>
      cases h
      exact ⟨by rw [hc, hg.1], hg.2⟩
    · cases h
  · cases h

theorem value?_of_isLengthOf {c : Condition} (h : c.isLengthOf name = true) :
    value? name v c = lengthValue? v := by
  rw [← value?_unparen]
  unfold isLengthOf at h
  split at h
  · next target ht => rw [ht, value?, value?_of_isVar h, Option.bind_some]
  · split at h
    · next target rest hargs =>
      obtain ⟨hcall, hlen⟩ := callArgs?_eq_some hargs
      obtain rfl : rest = [] := List.eq_nil_of_length_eq_zero (by simpa using hlen)
      rw [unparen_unparen] at hcall
      rw [hcall, value?, values?, value?_of_isVar h, values?]
      rfl
    · cases h

theorem isLengthOf_call (function : String) (args : List Condition) :
    (call function args).isLengthOf name = decide (function = "length" ∧ args.map (isVar name) = [true]) := by
  have hself : (call function args).unparen = call function args := rfl
  simp only [isLengthOf, callArgs?, hself]
  by_cases hf : function = "length"
  · rcases args with _ | ⟨t, _ | ⟨u, rest⟩⟩ <;> simp [hf]
  · simp [hf]

mutual
theorem value?_of_literalValue? : ∀ {c : Condition} {w : Json},
    c.literalValue? = some w → value? name v c = some w
  | .literal _, w, h => by rwa [literalValue?] at h
  | .list items, w, h => by
    rw [literalValue?, Option.map_eq_some_iff] at h
    obtain ⟨ws, hws, rfl⟩ := h
    rw [value?, values?_of_literalValues? hws]
    rfl
  | .paren inner, w, h => by
    rw [literalValue?] at h
    rw [value?, value?_of_literalValue? h]
  | .and .., _, h | .or .., _, h | .compare .., _, h | .call .., _, h | .varRef .., _, h
  | .length .., _, h => by cases h
termination_by structural c => c

theorem values?_of_literalValues? : ∀ {cs : List Condition} {ws : List Json},
    literalValues? cs = some ws → values? name v cs = some ws
  | [], _, h => by rwa [literalValues?] at h
  | c :: rest, ws, h => by
    unfold literalValues? at h
    split at h
    · next w ws hw hws =>
      cases h
      rw [values?, value?_of_literalValue? hw, values?_of_literalValues? hws]
    · cases h
termination_by structural cs => cs
end

theorem holds_contains (args : List Condition) :
    holds name v (.call "contains" args) = (values? name v args).any containsValue := by
  unfold holds
  rw [if_pos rfl]

/-! ## Exact literals -/

/-- The number of a constant is a binary64 number; if it is compared with the variable's length, it is
below `2 ^ 53` in absolute value. -/
def isExactBound (name : String) (subject bound : Condition) : Bool :=
  match bound.literalValue? with
  | some (.num n) => n.isExact && (!subject.isLengthOf name || n.isSmall)
  | _ => true

/-- Each number that a comparison inside mentions is a binary64 number, and those compared with the
variable's length are below `2 ^ 53` in absolute value. -/
def hasExactLiterals (name : String) : Condition → Bool
  | .and l r => hasExactLiterals name l && hasExactLiterals name r
  | .or l r => hasExactLiterals name l && hasExactLiterals name r
  | .paren inner => hasExactLiterals name inner
  | .compare _ l r => isExactBound name l r && isExactBound name r l
  | _ => true
termination_by structural c => c

end Condition

end VarSchema
