import VarSchema.Proofs.Rule.Range
import VarSchema.Rule.Basic

/-!
# The keywords of a condition accept the values for which it is true

* `Enumeration.accepts_node`, `Enumeration.ofMembership_holds`, `Enumeration.ofEqualities_holds` : a list of
  allowed values;
* `Range.ofComparisons_holds` : bounds; `Rule.ofRegexCall_holds` : a pattern;
* `Rule.accepts_of_recognize` : the keywords of any rule accept a value of the node's type if and only if the
  condition is true of it;
* `Condition.toDelta_accepts_iff_holds` : so do those of the first rule that recognizes the condition.
-/

namespace VarSchema

/-! ## Allowed values -/

namespace Enumeration

variable {name : String} {v : Json}

theorem accepts_node (values : List Json) (v : Json) :
    Schema.accepts (node values).toJson v = values.any v.equal := by
  have h : (node values).toJson = .obj [("enum", .arr values)] := rfl
  simp [h, Schema.accepts, Schema.acceptsKeywords, Assertion.holds, Assertion.itemsOf]

theorem literalValues?_of_constants : ∀ {items : List Condition} {values : List Json},
    constants items = .ok values → Condition.literalValues? items = some values
  | [], _, h => by cases h; rfl
  | item :: rest, values, h => by
    rw [constants] at h
    split at h
    · cases h
    next w hw =>
    obtain ⟨ws, hrest, rfl⟩ := Except.map_eq_ok.1 h
    rw [Condition.literalValues?, hw, literalValues?_of_constants hrest]

theorem value?_of_listItems {list : Condition} {values : List Json} (h : listItems list = .ok values) :
    list.value? name v = some (.arr values) := by
  rw [← Condition.value?_unparen]
  unfold listItems at h
  split at h
  · next items hitems =>
    rw [hitems, Condition.value?, Condition.values?_of_literalValues? (literalValues?_of_constants h)]
    rfl
  · next items hitems =>
    cases h
    rw [hitems, Condition.value?]
  · cases h

theorem ofMembership_holds {c : Condition} {d : Node} (h : ofMembership name c = .ok d) :
    ∃ values, d = node values ∧ ∀ v, c.holds name v = values.any v.equal := by
  unfold ofMembership at h
  split at h
  · next list subject hargs =>
    split at h
    · cases h
    next values hlist =>
    split at h
    · next hvar =>
      cases h
      refine ⟨values, rfl, fun v => ?_⟩
      rw [← Condition.holds_unparen, (Condition.callArgs?_eq_some hargs).1, Condition.holds_contains,
        Condition.values?, Condition.values?, Condition.values?, value?_of_listItems hlist,
        Condition.value?_of_isVar hvar]
      rfl
    · cases h
  · cases h

theorem holds_of_equated {l r : Condition} {w : Json} (h : equated name l r = .ok w) (v : Json) :
    (Condition.compare .eq l r).holds name v = v.equal w := by
  unfold equated at h
  rw [Condition.holds]
  by_cases hr : r.isVar name = true
  · simp only [hr, if_true] at h
    split at h
    · next w' hl =>
      cases h
      rw [Condition.value?_of_literalValue? hl, Condition.value?_of_isVar hr]
      exact Json.equal_comm w v
    · cases h
  · simp only [hr, Bool.false_eq_true, if_false] at h
    split at h
    · next hl =>
      split at h
      · next w' hr =>
        cases h
        rw [Condition.value?_of_literalValue? hr, Condition.value?_of_isVar hl]
        rfl
      · cases h
    · cases h

theorem alternatives_holds (v : Json) : ∀ {c : Condition} {values : List Json},
    alternatives name c = .ok values → c.holds name v = values.any v.equal
  | .or l r, values, h => by
    rw [alternatives] at h
    split at h
    · cases h
    next ls hl =>
    obtain ⟨rs, hr, rfl⟩ := Except.map_eq_ok.1 h
    rw [Condition.holds, alternatives_holds v hl, alternatives_holds v hr, List.any_append]
  | .paren inner, values, h => by
    rw [alternatives] at h
    rw [Condition.holds, alternatives_holds v h]
  | .compare op l r, values, h => by
    cases op with
    | eq =>
      rw [alternatives] at h
      obtain ⟨w, hw, rfl⟩ := Except.map_eq_ok.1 h
      rw [holds_of_equated hw, List.any_cons, List.any_nil, Bool.or_false]
    | _ => cases h
  | .and .., _, h | .call .., _, h | .varRef _, _, h | .length _, _, h | .literal _, _, h
  | .list _, _, h => by cases h
termination_by structural c => c

theorem ofEqualities_holds {c : Condition} {d : Node} (h : ofEqualities name c = .ok d) :
    ∃ values, d = node values ∧ ∀ v, c.holds name v = values.any v.equal := by
  unfold ofEqualities at h
  split at h
  · cases h
  · cases h
  next values _ halt =>
  cases h
  exact ⟨values, rfl, fun v => alternatives_holds v halt⟩

end Enumeration

/-! ## Bounds -/

namespace Range

theorem HoldsBounds.accepts_iff {n : Node} (hn : HoldsBounds n) (v : Json) :
    Schema.accepts n.toJson v = true ↔ ∀ k, n.HoldsAt k v := by
  refine Node.accepts_iff_holdsAt (fun k hk => ?_) v
  cases hget : n.get? k with
  | none => rfl
  | some w =>
    obtain ⟨b, side, hb, rfl, -⟩ := hn k w hget
    have hside := hb.keyword
    simp only [List.mem_cons, List.not_mem_nil, or_false] at hk
    rcases hk with hk | hk | hk | hk <;> rw [hk] at hside <;> cases hside

theorem ofComparisons_eq_ok {name : String} {type : Option String} {c : Condition} {d : Node}
    (h : ofComparisons name type c = .ok d) :
    ∃ t bs, type = some t ∧ t ∈ types ∧ bounds name t c = .ok bs ∧ d = tightest bs := by
  unfold ofComparisons at h
  split at h
  · cases h
  next t =>
  split at h
  · next ht =>
    obtain ⟨bs, hb, rfl⟩ := Except.map_eq_ok.1 h
    exact ⟨t, bs, rfl, List.contains_iff_mem.1 ht, hb, rfl⟩
  · cases h

theorem ofComparisons_holds {name : String} {type : Option String} {c : Condition} {d : Node}
    (h : ofComparisons name type c = .ok d) (hexact : c.hasExactLiterals name = true) {v : Json}
    (hv : ∀ t, type = some t → Assertion.hasType t v = true) :
    Schema.accepts d.toJson v = true ↔ c.holds name v = true := by
  obtain ⟨t, bs, ht, hmem, hbs, rfl⟩ := ofComparisons_eq_ok h
  have hall := bounds_exact hbs hexact
  rw [(holdsBounds_tightest hall).accepts_iff, holdsAt_tightest hall, bounds_holds hmem (hv t ht) hbs hexact]

end Range

namespace Rule

/-! ## Patterns -/

theorem ofRegexCall_eq_ok {name : String} {type : Option String} {c : Condition} {d : Node}
    (h : ofRegexCall name type c = .ok d) :
    ∃ inner pattern subject p, type = some "string" ∧ c.unparen = .call "can" [inner] ∧
      inner.callArgs? "regex" 2 = some [pattern, subject] ∧ subject.isVar name = true ∧
      pattern.literalValue? = some (.str p) ∧ d = Node.empty.set "pattern" (.str p) := by
  unfold ofRegexCall at h
  split at h
  · cases h
  next htype =>
  split at h
  · cases h
  next pattern subject hargs =>
  split at h
  · cases h
  next hvar =>
  split at h
  · next p hp =>
    split at h
    · cases h
    cases h
    unfold regexArgs at hargs
    split at hargs
    · next inner hcan =>
      split at hargs
      · next pattern' subject' hregex =>
        cases hargs
        exact ⟨inner, pattern, subject, p, Decidable.not_not.1 htype, (Condition.callArgs?_eq_some hcan).1, hregex,
          by simpa using hvar, hp, rfl⟩
      · cases hargs
    · cases hargs
  · cases h

theorem ofRegexCall_holds {name : String} {type : Option String} {c : Condition} {d : Node}
    (h : ofRegexCall name type c = .ok d) {v : Json}
    (hv : ∀ t, type = some t → Assertion.hasType t v = true) :
    Schema.accepts d.toJson v = c.holds name v := by
  obtain ⟨inner, pattern, subject, p, htype, hcan, hregex, hvar, hp, rfl⟩ := ofRegexCall_eq_ok h
  cases v with
  | str s =>
    have hd : (Node.empty.set "pattern" (.str p)).toJson = .obj [("pattern", .str p)] := rfl
    rw [← Condition.holds_unparen, hcan, hd]
    simp [Schema.accepts, Schema.acceptsKeywords, Assertion.holds, Assertion.matchesPattern, Condition.holds,
      Condition.succeeds, hregex, Condition.values?, Condition.value?_of_literalValue? hp,
      Condition.value?_of_isVar hvar, Condition.matchesText]
  | _ => exact absurd (hv _ htype) (by simp [Assertion.hasType])

/-! ## Every rule -/

/-- The keywords of a rule accept the values of the node's type for which the condition is true. -/
theorem accepts_of_recognize {r : Rule} {name : String} {type : Option String} {c : Condition} {d : Node}
    (h : r.recognize name type c = .ok d) (hexact : c.hasExactLiterals name = true) {v : Json}
    (hv : ∀ t, type = some t → Assertion.hasType t v = true) :
    Schema.accepts d.toJson v = true ↔ c.holds name v = true := by
  cases r with
  | membership =>
    obtain ⟨values, rfl, hvalues⟩ := Enumeration.ofMembership_holds h
    rw [Enumeration.accepts_node, hvalues]
  | equalityChain =>
    obtain ⟨values, rfl, hvalues⟩ := Enumeration.ofEqualities_holds h
    rw [Enumeration.accepts_node, hvalues]
  | rangeChain => exact Range.ofComparisons_holds h hexact hv
  | regexCall => rw [ofRegexCall_holds h hv]

end Rule

namespace Condition

theorem recognize_of_firstDelta {name : String} {type : Option String} {c : Condition} {d : Node} :
    ∀ {rules : List Rule}, firstDelta name type c rules = .ok d → ∃ r : Rule, r.recognize name type c = .ok d
  | [], h => by cases h
  | r :: rest, h => by
    rw [firstDelta] at h
    split at h
    · next delta hr =>
      cases h
      exact ⟨r, hr⟩
    · exact recognize_of_firstDelta (Except.mapError_eq_ok.1 h)

theorem recognize_of_toDelta {name : String} {n d : Node} {c : Condition} (h : c.toDelta name n = .ok d) :
    ∃ r : Rule, r.recognize name n.typeName? c = .ok d :=
  recognize_of_firstDelta (Except.mapError_eq_ok.1 h)

/-- **The keywords of a condition accept a value of the node's type if and only if the condition is true of
it.** -/
theorem toDelta_accepts_iff_holds {name : String} {n d : Node} {c : Condition}
    (h : c.toDelta name n = .ok d) (hexact : c.hasExactLiterals name = true) {v : Json}
    (hv : ∀ t, n.typeName? = some t → Assertion.hasType t v = true) :
    Schema.accepts d.toJson v = true ↔ c.holds name v = true := by
  obtain ⟨r, hr⟩ := recognize_of_toDelta h
  exact Rule.accepts_of_recognize hr hexact hv

/-- Two bounds on the length of a text, one of them with swapped operands. -/
theorem toDelta_accepts_iff_holds_lengths :
    let c : Condition := .and (.paren (.compare .gt (.length (.varRef "s")) (.literal (.int 3))))
      (.compare .ge (.literal (.int 10)) (.call "length" [.varRef "s"]))
    ∃ d, c.toDelta "s" (Node.typed "string") = .ok d ∧
      (Schema.accepts d.toJson (.str "abcd") = true ↔ c.holds "s" (.str "abcd") = true) := by
  intro c
  have hok : (c.toDelta "s" (Node.typed "string")).isOk = true := by decide +kernel
  have hexact : c.hasExactLiterals "s" = true := by decide +kernel
  cases h : c.toDelta "s" (Node.typed "string") with
  | error e => rw [h] at hok; cases hok
  | ok d =>
    refine ⟨d, rfl, toDelta_accepts_iff_holds h hexact fun t ht => ?_⟩
    cases ht
    rfl

end Condition

end VarSchema
