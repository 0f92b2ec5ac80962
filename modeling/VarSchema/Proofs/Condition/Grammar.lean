import VarSchema.Proofs.Condition.Views

/-!
# Forms of expressions

* `Condition.IsReference`, `Condition.IsLength` : the variable, and its length in either spelling;
  `Condition.Denotes` : a constant of a value, which is a literal or a list of constants;
* `Condition.isVar_iff`, `Condition.isLengthOf_iff`, `Condition.literalValue?_eq_some_iff` : the views by which rules
  read an operand find these forms and no others;
* `Condition.conjuncts`, `Condition.disjuncts` : the links of a chain of `&&` and of `||`, from left to right. How
  parentheses group a chain does not show in its links.
-/

namespace VarSchema

namespace Condition

variable {name : String}

/-! ## Operands -/

/-- A direct reference to the variable. -/
inductive IsReference (name : String) : Condition → Prop
  | varRef : IsReference name (.varRef name)
  | paren {inner : Condition} : IsReference name inner → IsReference name (.paren inner)

/-- The length of the variable, in either spelling. -/
inductive IsLength (name : String) : Condition → Prop
  | length {target : Condition} : IsReference name target → IsLength name (.length target)
  | call {target : Condition} : IsReference name target → IsLength name (.call "length" [target])
  | paren {inner : Condition} : IsLength name inner → IsLength name (.paren inner)

mutual
/-- A constant of a value: a literal, or a list of constants. -/
inductive Denotes : Condition → Json → Prop
  | literal (v : Json) : Denotes (.literal v) v
  | list {items : List Condition} {vs : List Json} : DenotesEach items vs → Denotes (.list items) (.arr vs)
  | paren {inner : Condition} {v : Json} : Denotes inner v → Denotes (.paren inner) v

/-- Constants, item by item. -/
inductive DenotesEach : List Condition → List Json → Prop
  | nil : DenotesEach [] []
  | cons {c : Condition} {v : Json} {cs : List Condition} {vs : List Json} :
      Denotes c v → DenotesEach cs vs → DenotesEach (c :: cs) (v :: vs)
end

/-! ## Views -/

theorem isVar_iff : ∀ {c : Condition}, c.isVar name = true ↔ c.IsReference name
  | .varRef n => by
    constructor
    · intro h
      obtain rfl : n = name := eq_of_beq h
      exact .varRef
    · rintro ⟨⟩
      exact beq_self_eq_true name
  | .paren inner => by
    constructor
    · intro h
      exact .paren ((isVar_iff (c := inner)).1 h)
    · rintro (_ | h)
      exact (isVar_iff (c := inner)).2 h
  | .and .. | .or .. | .compare .. | .call .. | .length _ | .literal _ | .list _ => iff_of_false nofun nofun
termination_by structural c => c

theorem isLengthOf_iff : ∀ {c : Condition}, c.isLengthOf name = true ↔ c.IsLength name
  | .length target => by
    constructor
    · intro h
      exact .length (isVar_iff.1 h)
    · rintro (h | _)
      exact isVar_iff.2 h
  | .call f args => by
    rw [isLengthOf_call, decide_eq_true_iff, List.map_eq_singleton_iff]
    constructor
    · rintro ⟨rfl, target, rfl, h⟩
      exact .call (isVar_iff.1 h)
    · rintro (_ | h)
      exact ⟨rfl, _, rfl, isVar_iff.2 h⟩
  | .paren inner => by
    constructor
    · intro h
      exact .paren ((isLengthOf_iff (c := inner)).1 h)
    · rintro (_ | _ | h)
      exact (isLengthOf_iff (c := inner)).2 h
  | .and .. | .or .. | .compare .. | .varRef _ | .literal _ | .list _ => iff_of_false nofun nofun
termination_by structural c => c

mutual
theorem literalValue?_eq_some_iff : ∀ {c : Condition} {v : Json}, c.literalValue? = some v ↔ c.Denotes v
  | .literal w, v => by
    constructor
    · rintro ⟨⟩
      exact .literal w
    · rintro ⟨⟩
      rfl
  | .list items, v => by
    rw [literalValue?, Option.map_eq_some_iff]
    constructor
    · rintro ⟨vs, hvs, rfl⟩
      exact .list (literalValues?_eq_some_iff.1 hvs)
    · rintro (_ | hvs)
      exact ⟨_, literalValues?_eq_some_iff.2 hvs, rfl⟩
  | .paren inner, v => by
    rw [literalValue?, literalValue?_eq_some_iff]
    constructor
    · exact .paren
    · rintro (_ | _ | h)
      exact h
  | .and .., _ | .or .., _ | .compare .., _ | .call .., _ | .varRef _, _ | .length _, _ => iff_of_false nofun nofun
termination_by structural c => c

theorem literalValues?_eq_some_iff : ∀ {vs : List Json} {cs : List Condition},
    literalValues? cs = some vs ↔ DenotesEach cs vs
  | vs, [] => by
    constructor
    · rintro ⟨⟩
      exact .nil
    · rintro ⟨⟩
      rfl
  | vs, c :: rest => by
    constructor
    · intro h
      unfold literalValues? at h
      split at h
      · next w ws hw hws =>
        cases h
        exact .cons (literalValue?_eq_some_iff.1 hw) (literalValues?_eq_some_iff.1 hws)
      · cases h
    · rintro (_ | ⟨hw, hws⟩)
      rw [literalValues?, literalValue?_eq_some_iff.2 hw, literalValues?_eq_some_iff.2 hws]
termination_by structural _ cs => cs
end

/-! ## Links of chains -/

/-- What a chain of `&&` links. -/
def conjuncts : Condition → List Condition
  | .and l r => conjuncts l ++ conjuncts r
  | .paren inner => conjuncts inner
  | c => [c]
termination_by structural c => c

/-- What a chain of `||` links. -/
def disjuncts : Condition → List Condition
  | .or l r => disjuncts l ++ disjuncts r
  | .paren inner => disjuncts inner
  | c => [c]
termination_by structural c => c

theorem conjuncts_ne_nil : ∀ c : Condition, c.conjuncts ≠ []
  | .and l _ => List.append_ne_nil_of_left_ne_nil (conjuncts_ne_nil l) _
  | .paren inner => conjuncts_ne_nil inner
  | .or .. | .compare .. | .call .. | .varRef _ | .length _ | .literal _ | .list _ => List.cons_ne_nil _ _
termination_by structural c => c

theorem disjuncts_ne_nil : ∀ c : Condition, c.disjuncts ≠ []
  | .or l _ => List.append_ne_nil_of_left_ne_nil (disjuncts_ne_nil l) _
  | .paren inner => disjuncts_ne_nil inner
  | .and .. | .compare .. | .call .. | .varRef _ | .length _ | .literal _ | .list _ => List.cons_ne_nil _ _
termination_by structural c => c

end Condition

end VarSchema
