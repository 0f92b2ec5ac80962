import Mathlib.Data.List.Forall2
import VarSchema.Proofs.Rule.Meaning

/-!
# When a rule recognizes a condition

* `Condition.refers_of_literalValue?` : a constant is neither the variable nor its length, so that a comparison has one
  orientation at most;
* `Enumeration.ofMembership_eq_ok_iff`, `Rule.ofRegexCall_eq_ok_iff` : calls, by their arguments;
* `Enumeration.equated_eq_ok_iff`, `Range.ofComparison_eq_ok_iff` : comparisons, in which both operands play the same
  part;
* `Enumeration.alternatives_or_eq_ok_iff`, `Range.bounds_and_eq_ok_iff` : chains, link by link;
* `Rejection.IsOf`, `Condition.firstDelta_eq_error_iff` : some rules refuse a condition with the reason of each, in
  their order.
-/

namespace VarSchema

namespace Condition

variable {name : String} {c : Condition}

theorem callArgs?_eq_some_iff {f : String} {n : Nat} {args : List Condition} :
    c.callArgs? f n = some args ↔ c.unparen = .call f args ∧ args.length = n := by
  refine ⟨callArgs?_eq_some, ?_⟩
  rintro ⟨hcall, hlen⟩
  rw [callArgs?, hcall]
  exact if_pos ⟨rfl, hlen⟩

/-- A constant is neither the variable nor its length. -/
theorem refers_of_literalValue? : ∀ {c : Condition} {v : Json}, c.literalValue? = some v →
    c.isVar name = false ∧ c.isLengthOf name = false
  | .paren inner, _, h => refers_of_literalValue? (c := inner) h
  | .literal _, _, _ => ⟨rfl, rfl⟩
  | .list _, _, _ => ⟨rfl, rfl⟩
  | .and .., _, h | .or .., _, h | .compare .., _, h | .call .., _, h | .varRef .., _, h
  | .length .., _, h => by cases h
termination_by structural c => c

end Condition

/-! ## Allowed values -/

namespace Enumeration

variable {name : String} {c l r : Condition} {d : Node}

theorem constants_eq_ok_iff : ∀ {items : List Condition} {values : List Json},
    constants items = .ok values ↔ Condition.literalValues? items = some values
  | [], _ => by simp [constants, Condition.literalValues?]
  | item :: rest, values => by
    refine ⟨literalValues?_of_constants, fun h => ?_⟩
    rw [Condition.literalValues?] at h
    split at h
    · next w ws hw hws =>
      cases h
      rw [constants, hw]
      exact Except.map_eq_ok.2 ⟨ws, constants_eq_ok_iff.2 hws, rfl⟩
    · cases h

/-- The items of a list are those of the array that is its constant. -/
theorem listItems_eq_ok_iff : ∀ {c : Condition} {values : List Json},
    listItems c = .ok values ↔ c.literalValue? = some (.arr values)
  | .list items, values => by
    rw [Condition.literalValue?, Option.map_eq_some_iff]
    simp only [Json.arr.injEq, exists_eq_right]
    exact constants_eq_ok_iff
  | .literal w, values => by
    rw [Condition.literalValue?]
    cases w <;> simp [listItems, Condition.unparen]
  | .paren inner, values => listItems_eq_ok_iff (c := inner)
  | .and .., _ | .or .., _ | .compare .., _ | .call .., _ | .varRef .., _ | .length .., _ =>
    iff_of_false nofun nofun
termination_by structural c => c

theorem ofMembership_eq_ok_iff : ofMembership name c = .ok d ↔
    ∃ list subject values, c.callArgs? "contains" 2 = some [list, subject] ∧
      list.literalValue? = some (.arr values) ∧ subject.isVar name = true ∧ d = node values := by
  constructor
  · intro h
    unfold ofMembership at h
    split at h
    · next list subject hargs =>
      split at h
      · cases h
      next values hlist =>
      split at h
      · next hvar =>
        cases h
        exact ⟨list, subject, values, hargs, listItems_eq_ok_iff.1 hlist, hvar, rfl⟩
      · cases h
    · cases h
  · rintro ⟨list, subject, values, hargs, hlist, hvar, rfl⟩
    rw [ofMembership, hargs]
    simp only [listItems_eq_ok_iff.2 hlist, hvar, if_true]

/-- An equality compares the variable with a constant, on either side. -/
theorem equated_eq_ok_iff {w : Json} : equated name l r = .ok w ↔
    (l.isVar name = true ∧ r.literalValue? = some w) ∨ (r.isVar name = true ∧ l.literalValue? = some w) := by
  unfold equated
  cases hr : r.isVar name with
  | true =>
    have hconstant : r.literalValue? ≠ some w := by
      intro h
      rw [(Condition.refers_of_literalValue? h).1] at hr
      cases hr
    simp only [hr, if_true, hconstant, and_false, true_and, false_or]
    cases l.literalValue? <;> simp
  | false =>
    simp only [Bool.false_eq_true, if_false, false_and, or_false]
    cases l.isVar name <;> cases r.literalValue? <;> simp

theorem alternatives_or_eq_ok_iff {values : List Json} : alternatives name (.or l r) = .ok values ↔
    ∃ ls rs, alternatives name l = .ok ls ∧ alternatives name r = .ok rs ∧ ls ++ rs = values := by
  rw [alternatives]
  cases alternatives name l with
  | error e => simp
  | ok ls => simp [Except.map_eq_ok]

theorem alternatives_compare_eq_ok_iff {op : Comparison} {values : List Json} :
    alternatives name (.compare op l r) = .ok values ↔
      op = .eq ∧ ∃ w, equated name l r = .ok w ∧ [w] = values := by
  cases op with
  | eq =>
    rw [alternatives, Except.map_eq_ok]
    simp
  | _ =>
    refine iff_of_false (fun h => by cases h) ?_
    rintro ⟨hop, -⟩
    cases hop

theorem ofEqualities_eq_ok_iff : ofEqualities name c = .ok d ↔
    ∃ values, alternatives name c = .ok values ∧ values ≠ [] ∧ d = node values := by
  unfold ofEqualities
  split
  · next e h => simp [h]
  · next h => simp [h]
  · next values hne h =>
    have hsome : values ≠ [] := fun hnil => hne (by rw [hnil])
    simp [h, hsome, eq_comm]

end Enumeration

/-! ## Bounds -/

namespace Range

variable {name type : String} {op : Comparison} {l r s b : Condition} {bs : List Bound}

/-- The comparison of a subject, which is the variable or its length, with a number that bounds it. -/
def Bounds (name type : String) (op : Comparison) (s b : Condition) (bs : List Bound) : Prop :=
  op ≠ .ne ∧ refers name s = true ∧
    ∃ n, b.literalValue? = some (.num n) ∧ ofSubject type (!s.isVar name) op n.toBinary64 = .ok bs

theorem refers_eq_false {v : Json} (h : b.literalValue? = some v) : refers name b = false := by
  obtain ⟨hvar, hlength⟩ : b.isVar name = false ∧ b.isLengthOf name = false := Condition.refers_of_literalValue? h
  rw [refers, hvar, hlength]
  rfl

theorem ofComparison_of_oriented {op' : Comparison} (h : oriented name op l r = (op', s, b)) :
    ofComparison name type op l r = .ok bs ↔ Bounds name type op' s b bs := by
  rw [ofComparison, h, Bounds]
  dsimp only
  by_cases hop : op' = .ne
  · simp [hop]
  · cases hrefers : refers name s with
    | false => simp [hop]
    | true =>
      rcases b.literalValue? with _ | w
      · simp [hop]
      · cases w <;> simp [hop, Json.number?]

/-- Either operand may be the subject, the operator being mirrored if it is the right one. -/
theorem ofComparison_eq_ok_iff : ofComparison name type op l r = .ok bs ↔
    Bounds name type op l r bs ∨ Bounds name type op.mirrored r l bs := by
  constructor
  · intro h
    rcases horient : oriented name op l r with ⟨op', s, b⟩
    have hbounds := (ofComparison_of_oriented horient).1 h
    rcases oriented_cases horient with ⟨rfl, rfl, rfl⟩ | ⟨rfl, rfl, rfl⟩
    · exact .inl hbounds
    · exact .inr hbounds
  · rintro (h | h)
    · obtain ⟨-, -, n, hr, -⟩ := id h
      have horient : oriented name op l r = (op, l, r) := by
        rw [oriented, refers_eq_false hr]
        rfl
      exact (ofComparison_of_oriented horient).2 h
    · obtain ⟨-, hrefers, n, hl, -⟩ := id h
      have horient : oriented name op l r = (op.mirrored, r, l) := by
        rw [oriented, refers_eq_false hl, hrefers]
        rfl
      exact (ofComparison_of_oriented horient).2 h

theorem bounds_and_eq_ok_iff : bounds name type (.and l r) = .ok bs ↔
    ∃ ls rs, bounds name type l = .ok ls ∧ bounds name type r = .ok rs ∧ ls ++ rs = bs := by
  rw [bounds]
  cases bounds name type l with
  | error e => simp
  | ok ls => simp [Except.map_eq_ok]

theorem ofComparisons_eq_ok_iff {type : Option String} {c : Condition} {d : Node} :
    ofComparisons name type c = .ok d ↔
      ∃ t bs, type = some t ∧ t ∈ types ∧ bounds name t c = .ok bs ∧ d = tightest bs := by
  refine ⟨ofComparisons_eq_ok, ?_⟩
  rintro ⟨t, bs, rfl, ht, hbs, rfl⟩
  rw [ofComparisons]
  simp only [List.contains_iff_mem.2 ht, if_true, hbs]
  rfl

end Range

/-! ## Patterns -/

namespace Rule

variable {name : String} {type : Option String} {c : Condition} {d : Node}

theorem regexArgs_eq_ok_iff {pattern subject : Condition} : regexArgs c = .ok (pattern, subject) ↔
    ∃ inner, c.callArgs? "can" 1 = some [inner] ∧ inner.callArgs? "regex" 2 = some [pattern, subject] := by
  constructor
  · intro h
    unfold regexArgs at h
    split at h
    · next inner hcan =>
      split at h
      · next hregex =>
        cases h
        exact ⟨inner, hcan, hregex⟩
      · cases h
    · cases h
  · rintro ⟨inner, hcan, hregex⟩
    rw [regexArgs, hcan]
    simp only [hregex]

theorem ofRegexCall_eq_ok_iff : ofRegexCall name type c = .ok d ↔
    type = some "string" ∧ ∃ pattern subject p, regexArgs c = .ok (pattern, subject) ∧ subject.isVar name = true ∧
      pattern.literalValue? = some (.str p) ∧ (Pattern.ofText p).isOk = true ∧
      d = Node.empty.set "pattern" (.str p) := by
  constructor
  · intro h
    obtain ⟨inner, pattern, subject, p, htype, hcan, hregex, hvar, hp, hd⟩ := ofRegexCall_eq_ok h
    have hargs : regexArgs c = .ok (pattern, subject) :=
      regexArgs_eq_ok_iff.2 ⟨inner, Condition.callArgs?_eq_some_iff.2 ⟨hcan, rfl⟩, hregex⟩
    refine ⟨htype, pattern, subject, p, hargs, hvar, hp, ?_, hd⟩
    cases hcompiles : Pattern.ofText p with
    | ok q => rfl
    | error e =>
      rw [ofRegexCall, if_neg (by rw [htype]; decide), hargs] at h
      simp [hvar, hp, hcompiles] at h
  · rintro ⟨rfl, pattern, subject, p, hargs, hvar, hp, hcompiles, rfl⟩
    obtain ⟨q, hq⟩ := Except.isOk_iff.1 hcompiles
    rw [ofRegexCall, if_neg (by decide), hargs]
    simp [hvar, hp, hq]

end Rule

/-! ## Some rules -/

/-- The rejection is that of the rule, with its own reason. -/
def Rejection.IsOf (name : String) (type : Option String) (c : Condition) (r : Rule) (rejection : Rejection) : Prop :=
  rejection.rule = r ∧ r.recognize name type c = .error rejection.reason

/-- Some rules refuse a condition with the reason of each, in their order. -/
theorem Condition.firstDelta_eq_error_iff {name : String} {type : Option String} {c : Condition} :
    ∀ {rules : List Rule} {rejections : List Rejection}, firstDelta name type c rules = .error rejections ↔
      List.Forall₂ (Rejection.IsOf name type c) rules rejections
  | [], rejections => by
    rw [firstDelta, List.forall₂_nil_left_iff, Except.error.injEq, eq_comm]
  | r :: rest, rejections => by
    rw [firstDelta, List.forall₂_cons_left_iff]
    cases hr : r.recognize name type c with
    | ok d =>
      refine iff_of_false (fun h => by cases h) ?_
      rintro ⟨rejection, others, ⟨-, hreason⟩, -⟩
      rw [hr] at hreason
      cases hreason
    | error reason =>
      simp only [Except.mapError_eq_error, firstDelta_eq_error_iff]
      constructor
      · rintro ⟨others, hothers, rfl⟩
        exact ⟨⟨r, reason⟩, others, ⟨rfl, hr⟩, hothers, rfl⟩
      · rintro ⟨⟨r', reason'⟩, others, ⟨hrule, hreason⟩, hothers, rfl⟩
        obtain rfl : r' = r := hrule
        rw [hr] at hreason
        cases hreason
        exact ⟨others, hothers, rfl⟩

end VarSchema
