import VarSchema.Proofs.Rule.Recognition

/-!
# The rules exclude each other

* `Rule.ofForm?` : the only rule that may recognize a condition, by its outermost form;
  `Rule.ofForm?_of_recognize` : and it is the one that does;
* `Rule.eq_of_recognize`, `Condition.firstDelta_eq_ok_iff` : so the order of the rules never matters;
* `Condition.toDelta_eq_error_iff` : a condition is refused if and only if each rule refuses it;
* `Condition.exclusive_rules` : all this of every condition, variable and type.
-/

namespace VarSchema

namespace Rule

variable {name type : String} {c : Condition}

/-- The only rule that may recognize the condition. Of the comparisons, an equality with the variable itself lists an
allowed value, and the others are bounds. -/
def ofForm? (name : String) (c : Condition) : Option Rule :=
  match c.unparen with
  | .call f _ => if f = "contains" then some membership else if f = "can" then some regexCall else none
  | .or _ _ => some equalityChain
  | .and _ _ => some rangeChain
  | .compare op l r => if op = .eq ∧ (l.isVar name || r.isVar name) = true then some equalityChain else some rangeChain
  | _ => none

theorem ofForm?_of_callArgs? {f : String} {n : Nat} {args : List Condition} (h : c.callArgs? f n = some args) :
    ofForm? name c = if f = "contains" then some membership else if f = "can" then some regexCall else none := by
  rw [ofForm?, (Condition.callArgs?_eq_some h).1]

theorem ofForm?_of_alternatives : ∀ {c : Condition} {values : List Json},
    Enumeration.alternatives name c = .ok values → ofForm? name c = some equalityChain
  | .or .., _, _ => rfl
  | .paren inner, _, h => ofForm?_of_alternatives (c := inner) h
  | .compare op l r, values, h => by
    obtain ⟨rfl, w, hw, -⟩ := Enumeration.alternatives_compare_eq_ok_iff.1 h
    have hvar : (l.isVar name || r.isVar name) = true := by
      rcases Enumeration.equated_eq_ok_iff.1 hw with ⟨hl, -⟩ | ⟨hr, -⟩
      · rw [hl, Bool.true_or]
      · rw [hr, Bool.or_true]
    exact if_pos ⟨rfl, hvar⟩
  | .and .., _, h | .call .., _, h | .varRef _, _, h | .length _, _, h | .literal _, _, h | .list _, _, h => by cases h
termination_by structural c => c

/-- An equality has bounds only if neither operand is the variable: one is its length, the other a number. -/
theorem isVar_eq_false_of_bounds {s b : Condition} {bs : List Bound} (h : Range.Bounds name type .eq s b bs) :
    s.isVar name = false ∧ b.isVar name = false := by
  obtain ⟨-, -, n, hb, hsubject⟩ := h
  refine ⟨?_, (Condition.refers_of_literalValue? hb).1⟩
  cases hvar : s.isVar name with
  | false => rfl
  | true =>
    rw [hvar, Range.ofSubject] at hsubject
    split at hsubject <;> cases hsubject

theorem ofForm?_of_bounds : ∀ {c : Condition} {bs : List Bound},
    Range.bounds name type c = .ok bs → ofForm? name c = some rangeChain
  | .and .., _, _ => rfl
  | .paren inner, _, h => ofForm?_of_bounds (c := inner) h
  | .compare op l r, bs, h => by
    refine if_neg ?_
    rintro ⟨rfl, hvar⟩
    rcases Range.ofComparison_eq_ok_iff.1 h with hl | hr
    · rw [(isVar_eq_false_of_bounds hl).1, (isVar_eq_false_of_bounds hl).2] at hvar
      cases hvar
    · rw [(isVar_eq_false_of_bounds hr).1, (isVar_eq_false_of_bounds hr).2] at hvar
      cases hvar
  | .or .., _, h | .call .., _, h | .varRef _, _, h | .length _, _, h | .literal _, _, h | .list _, _, h => by cases h
termination_by structural c => c

/-- A rule that recognizes a condition is the one of its form. -/
theorem ofForm?_of_recognize {r : Rule} {type : Option String} {d : Node} (h : r.recognize name type c = .ok d) :
    ofForm? name c = some r := by
  cases r with
  | membership =>
    obtain ⟨list, subject, values, hargs, -⟩ := Enumeration.ofMembership_eq_ok_iff.1 h
    rw [ofForm?_of_callArgs? hargs, if_pos rfl]
  | equalityChain =>
    obtain ⟨values, hvalues, -⟩ := Enumeration.ofEqualities_eq_ok_iff.1 h
    exact ofForm?_of_alternatives hvalues
  | rangeChain =>
    obtain ⟨t, bs, -, -, hbs, -⟩ := Range.ofComparisons_eq_ok_iff.1 h
    exact ofForm?_of_bounds hbs
  | regexCall =>
    obtain ⟨-, pattern, subject, p, hargs, -⟩ := ofRegexCall_eq_ok_iff.1 h
    obtain ⟨inner, hcan, -⟩ := regexArgs_eq_ok_iff.1 hargs
    rw [ofForm?_of_callArgs? hcan, if_neg (by decide), if_pos rfl]

/-- At most one rule recognizes a condition. -/
theorem eq_of_recognize {r s : Rule} {type : Option String} {d e : Node} (hr : r.recognize name type c = .ok d)
    (hs : s.recognize name type c = .ok e) : r = s :=
  Option.some.inj ((ofForm?_of_recognize hr).symm.trans (ofForm?_of_recognize hs))

theorem mem_all (r : Rule) : r ∈ all := by cases r <;> decide

end Rule

namespace Condition

variable {name : String} {type : Option String} {c : Condition} {n d : Node}

/-- Whatever the order of some rules, the first that recognizes a condition is the only one. -/
theorem firstDelta_eq_ok_iff : ∀ {rules : List Rule},
    firstDelta name type c rules = .ok d ↔ ∃ r ∈ rules, r.recognize name type c = .ok d
  | [] => by simp [firstDelta]
  | r :: rest => by
    simp only [firstDelta, List.mem_cons, exists_eq_or_imp]
    cases hr : r.recognize name type c with
    | error reason =>
      dsimp only
      rw [Except.mapError_eq_ok, firstDelta_eq_ok_iff]
      simp
    | ok e =>
      constructor
      · intro h
        exact .inl (by rw [Except.ok.inj h])
      · rintro (h | ⟨s, -, hs⟩)
        · rw [Except.ok.inj h]
        · obtain rfl := Rule.eq_of_recognize hr hs
          rw [hr, Except.ok.injEq] at hs
          rw [hs]

theorem toDelta_eq_ok_iff : c.toDelta name n = .ok d ↔ ∃ r : Rule, r.recognize name n.typeName? c = .ok d := by
  rw [toDelta, Except.mapError_eq_ok, firstDelta_eq_ok_iff]
  simp only [Rule.mem_all, true_and]

theorem exists_toDelta_eq_error_iff : (∃ cause, c.toDelta name n = .error cause) ↔
    ∀ r : Rule, ∃ reason, r.recognize name n.typeName? c = .error reason := by
  constructor
  · rintro ⟨cause, hcause⟩ r
    cases hr : r.recognize name n.typeName? c with
    | error reason => exact ⟨reason, rfl⟩
    | ok d =>
      rw [toDelta_eq_ok_iff.2 ⟨r, hr⟩] at hcause
      cases hcause
  · intro hall
    cases h : c.toDelta name n with
    | error cause => exact ⟨cause, rfl⟩
    | ok d =>
      obtain ⟨r, hr⟩ := toDelta_eq_ok_iff.1 h
      obtain ⟨reason, hreason⟩ := hall r
      rw [hr] at hreason
      cases hreason

theorem toDelta_eq_error_iff {cause : NotApplicable} : c.toDelta name n = .error cause ↔
    cause.condition = c ∧ List.Forall₂ (Rejection.IsOf name n.typeName? c) Rule.all cause.rejections := by
  rw [toDelta, Except.mapError_eq_error]
  simp only [firstDelta_eq_error_iff]
  constructor
  · rintro ⟨rejections, h, rfl⟩
    exact ⟨rfl, h⟩
  · rintro ⟨rfl, h⟩
    exact ⟨cause.rejections, h, rfl⟩

/-- **At most one rule recognizes a condition. So in any order of the rules the first that does is that one, and a
condition is refused if and only if all four refuse it, with the reason of each, in the order of the rules.** -/
theorem exclusive_rules (name : String) (type : Option String) (c : Condition) :
    (∀ (r s : Rule) (d e : Node), r.recognize name type c = .ok d → s.recognize name type c = .ok e → r = s) ∧
    ∀ n : Node, n.typeName? = type →
      (∀ d, c.toDelta name n = .ok d ↔ ∃ r : Rule, r.recognize name type c = .ok d) ∧
      (∀ rules : List Rule, rules.Perm Rule.all → ∀ d,
        firstDelta name type c rules = .ok d ↔ c.toDelta name n = .ok d) ∧
      ((∃ cause, c.toDelta name n = .error cause) ↔
        ∀ r : Rule, ∃ reason, r.recognize name type c = .error reason) ∧
      ∀ cause, c.toDelta name n = .error cause → cause.condition = c ∧
        List.Forall₂ (Rejection.IsOf name type c) [.membership, .equalityChain, .rangeChain, .regexCall]
          cause.rejections := by
  refine ⟨fun r s d e hr hs => Rule.eq_of_recognize hr hs, ?_⟩
  rintro n rfl
  refine ⟨fun d => toDelta_eq_ok_iff, fun rules hrules d => ?_, exists_toDelta_eq_error_iff,
    fun cause h => toDelta_eq_error_iff.1 h⟩
  rw [firstDelta_eq_ok_iff, toDelta_eq_ok_iff]
  simp only [hrules.mem_iff, Rule.mem_all, true_and]

/-- An equality in parentheses with the operands swapped, and the rules in reverse. -/
theorem exclusive_rules_swapped :
    let c : Condition := .paren (.compare .eq (.literal (.int 3)) (.paren (.varRef "x")))
    let rules : List Rule := [.regexCall, .rangeChain, .equalityChain, .membership]
    (Node.typed "number").typeName? = some "number" ∧ rules.Perm Rule.all ∧
      Rule.equalityChain.recognize "x" (some "number") c = .ok (Enumeration.node [.int 3]) ∧
      firstDelta "x" (some "number") c rules = .ok (Enumeration.node [.int 3]) ∧
      ∃ reason, Rule.rangeChain.recognize "x" (some "number") c = .error reason := by
  intro c rules
  have htype : (Node.typed "number").typeName? = some "number" := rfl
  have hrules : rules.Perm Rule.all := by decide
  have hequality : Rule.equalityChain.recognize "x" (some "number") c = .ok (Enumeration.node [.int 3]) := rfl
  obtain ⟨hunique, hnode⟩ := exclusive_rules "x" (some "number") c
  obtain ⟨hok, horders, -⟩ := hnode (Node.typed "number") htype
  refine ⟨htype, hrules, hequality, (horders rules hrules _).2 ((hok _).2 ⟨_, hequality⟩), ?_⟩
  cases hrange : Rule.rangeChain.recognize "x" (some "number") c with
  | error reason => exact ⟨reason, rfl⟩
  | ok d => cases hunique _ _ _ _ hequality hrange

end Condition

end VarSchema
