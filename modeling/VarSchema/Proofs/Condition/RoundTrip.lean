import Mathlib.Logic.Basic
import Mathlib.Tactic.SplitIfs
import VarSchema.Condition.Wire
import VarSchema.Proofs.Json.Canonical

/-!
# Conditions and their JSON form

* `Condition.Ordered` : the constants of a condition have their keys in order;
* `Condition.read?_toJson` : the written form of such a condition reads as the condition, by itself as well as inside
  another one;
* `Condition.ordered_of_read?` : every condition that is read is such a condition.
-/

namespace VarSchema

namespace Condition

mutual
/-- In every constant inside, the keys of objects strictly increase. -/
def Ordered : Condition → Prop
  | .and l r => Ordered l ∧ Ordered r
  | .or l r => Ordered l ∧ Ordered r
  | .compare _ l r => Ordered l ∧ Ordered r
  | .call _ args => OrderedItems args
  | .varRef _ => True
  | .length target => Ordered target
  | .literal v => v.Ordered
  | .list items => OrderedItems items
  | .paren inner => Ordered inner
termination_by structural c => c

/-- Every item is ordered. -/
def OrderedItems : List Condition → Prop
  | [] => True
  | c :: rest => Ordered c ∧ OrderedItems rest
termination_by structural cs => cs
end

/-! ## Reading what was written -/

mutual
/-- The form of a condition reads as the condition. -/
theorem read?_toJson : ∀ (nested : Bool) {c : Condition}, c.Ordered → read? nested c.toJson = some c
  | nested, .and l r, h => by
    rw [Ordered] at h
    have hl := read?_toJson true h.1
    have hr := read?_toJson true h.2
    show ((read? true l.toJson).bind fun a => (read? true r.toJson).bind fun b => some (and a b)) = _
    rw [hl, hr]
    rfl
  | nested, .or l r, h => by
    rw [Ordered] at h
    have hl := read?_toJson true h.1
    have hr := read?_toJson true h.2
    show ((read? true l.toJson).bind fun a => (read? true r.toJson).bind fun b => some (or a b)) = _
    rw [hl, hr]
    rfl
  | nested, .compare op l r, h => by
    rw [Ordered] at h
    have hl := read?_toJson true h.1
    have hr := read?_toJson true h.2
    have hop : operator? (.str op.symbol) = some op := by cases op <;> rfl
    show ((operator? (.str op.symbol)).bind fun o =>
      (read? true l.toJson).bind fun a => (read? true r.toJson).bind fun b => some (compare o a b)) = _
    rw [hop, hl, hr]
    rfl
  | nested, .call name args, h => by
    rw [Ordered] at h
    have hargs := readList?_toItems true h
    show ((readList? true (toItems args)).bind fun cs => some (call name cs)) = _
    rw [hargs]
    rfl
  | nested, .varRef name, _ => rfl
  | nested, .length target, h => by
    rw [Ordered] at h
    have htarget := read?_toJson true h
    show (read? true target.toJson).map length = _
    rw [htarget]
    rfl
  | nested, .literal v, h => by
    rw [Ordered] at h
    show some (literal v.canonical) = _
    rw [Json.canonical_of_ordered h]
  | nested, .list items, h => by
    rw [Ordered] at h
    have hitems := readList?_toItems true h
    show (readList? true (toItems items)).map list = _
    rw [hitems]
    rfl
  | nested, .paren inner, h => by
    rw [Ordered] at h
    have hinner := read?_toJson true h
    show (read? true inner.toJson).map paren = _
    rw [hinner]
    rfl
termination_by structural _ c => c

theorem readList?_toItems : ∀ (nested : Bool) {cs : List Condition}, OrderedItems cs →
    readList? nested (toItems cs) = some cs
  | _, [], _ => rfl
  | nested, c :: rest, h => by
    rw [OrderedItems] at h
    have hc := read?_toJson nested h.1
    have hrest := readList?_toItems nested h.2
    rw [toItems, readList?, hc, hrest]
    rfl
termination_by structural _ cs => cs
end

/-! ## What is read -/

variable {c : Condition}

/-- A condition made of ordered parts is ordered; a constant is brought into order. -/
theorem ordered_of_assemble? {kind : String} {f : Fields} (hcondition : ∀ k c, f.condition? k = some c → c.Ordered)
    (hconditions : ∀ k cs, f.conditions? k = some cs → OrderedItems cs) (h : assemble? kind f = some c) :
    c.Ordered := by
  unfold assemble? at h
  -- one kind after the other
  rcases ite_eq_iff.1 h with ⟨-, h⟩ | ⟨-, h⟩
  · obtain ⟨l, hl, h⟩ := Option.bind_eq_some_iff.1 h
    obtain ⟨r, hr, h⟩ := Option.bind_eq_some_iff.1 h
    cases h
    exact ⟨hcondition _ _ hl, hcondition _ _ hr⟩
  rcases ite_eq_iff.1 h with ⟨-, h⟩ | ⟨-, h⟩
  · obtain ⟨l, hl, h⟩ := Option.bind_eq_some_iff.1 h
    obtain ⟨r, hr, h⟩ := Option.bind_eq_some_iff.1 h
    cases h
    exact ⟨hcondition _ _ hl, hcondition _ _ hr⟩
  rcases ite_eq_iff.1 h with ⟨-, h⟩ | ⟨-, h⟩
  · obtain ⟨op, -, h⟩ := Option.bind_eq_some_iff.1 h
    obtain ⟨l, hl, h⟩ := Option.bind_eq_some_iff.1 h
    obtain ⟨r, hr, h⟩ := Option.bind_eq_some_iff.1 h
    cases h
    exact ⟨hcondition _ _ hl, hcondition _ _ hr⟩
  rcases ite_eq_iff.1 h with ⟨-, h⟩ | ⟨-, h⟩
  · obtain ⟨name, -, h⟩ := Option.bind_eq_some_iff.1 h
    split at h
    · obtain ⟨args, hargs, h⟩ := Option.bind_eq_some_iff.1 h
      cases h
      exact hconditions _ _ hargs
    · -- a call without arguments
      cases h
      exact trivial
  rcases ite_eq_iff.1 h with ⟨-, h⟩ | ⟨-, h⟩
  · obtain ⟨name, -, rfl⟩ := Option.map_eq_some_iff.1 h
    exact trivial
  rcases ite_eq_iff.1 h with ⟨-, h⟩ | ⟨-, h⟩
  · obtain ⟨target, htarget, rfl⟩ := Option.map_eq_some_iff.1 h
    show target.Ordered
    exact hcondition _ _ htarget
  rcases ite_eq_iff.1 h with ⟨-, h⟩ | ⟨-, h⟩
  · obtain ⟨v, -, rfl⟩ := Option.map_eq_some_iff.1 h
    exact Json.ordered_canonical v
  rcases ite_eq_iff.1 h with ⟨-, h⟩ | ⟨-, h⟩
  · obtain ⟨items, hitems, rfl⟩ := Option.map_eq_some_iff.1 h
    exact hconditions _ _ hitems
  rcases ite_eq_iff.1 h with ⟨-, h⟩ | ⟨-, h⟩
  · obtain ⟨inner, hinner, rfl⟩ := Option.map_eq_some_iff.1 h
    show inner.Ordered
    exact hcondition _ _ hinner
  · cases h

mutual
/-- Every condition that is read is ordered. -/
theorem ordered_of_read? : ∀ {nested : Bool} {v : Json} {c : Condition}, read? nested v = some c → c.Ordered
  | nested, .obj fields, c, h => by
    rw [read?] at h
    obtain ⟨kind, -, h⟩ := Option.bind_eq_some_iff.1 h
    exact ordered_of_assemble? (fun k _ hc => ordered_of_fieldCondition? hc)
      (fun k _ hcs => ordered_of_fieldConditions? hcs) h
  | nested, .arr items, c, h => by
    rw [read?] at h
    exact ordered_of_readItems? h
  | _, .null, _, h | _, .bool _, _, h | _, .num _, _, h | _, .str _, _, h => by cases h
termination_by structural _ v => v

theorem ordered_of_readItems? : ∀ {nested : Bool} {vs : List Json} {c : Condition},
    readItems? nested vs = some c → c.Ordered
  | _, [], _, h => by cases h
  | nested, v :: rest, c, h => by
    rw [readItems?] at h
    obtain ⟨kind, -, h⟩ := Option.bind_eq_some_iff.1 h
    dsimp only at h
    split at h
    · cases h
    · exact ordered_of_assemble? (fun k _ hc => ordered_of_itemCondition? hc)
        (fun k _ hcs => ordered_of_itemConditions? hcs) h
termination_by structural _ vs => vs

theorem ordered_of_fieldCondition? : ∀ {k : String} {es : List (String × Json)} {c : Condition},
    fieldCondition? k es = some c → c.Ordered
  | _, [], _, h => by cases h
  | k, (l, v) :: rest, c, h => by
    rw [fieldCondition?] at h
    split_ifs at h
    · exact ordered_of_read? h
    · exact ordered_of_fieldCondition? h
termination_by structural _ es => es

theorem ordered_of_fieldConditions? : ∀ {k : String} {es : List (String × Json)} {cs : List Condition},
    fieldConditions? k es = some cs → OrderedItems cs
  | _, [], _, h => by cases h
  | k, (l, v) :: rest, cs, h => by
    rw [fieldConditions?] at h
    split_ifs at h
    · exact ordered_of_readArray? h
    · exact ordered_of_fieldConditions? h
termination_by structural _ es => es

theorem ordered_of_itemCondition? : ∀ {k : String} {names : List String} {vs : List Json} {c : Condition},
    itemCondition? k names vs = some c → c.Ordered
  | _, [], vs, _, h => by cases vs <;> cases h
  | _, _ :: _, [], _, h => by cases h
  | k, l :: names, v :: rest, c, h => by
    rw [itemCondition?] at h
    split_ifs at h
    · exact ordered_of_read? h
    · exact ordered_of_itemCondition? h
termination_by structural _ _ vs => vs

theorem ordered_of_itemConditions? : ∀ {k : String} {names : List String} {vs : List Json} {cs : List Condition},
    itemConditions? k names vs = some cs → OrderedItems cs
  | _, [], vs, _, h => by cases vs <;> cases h
  | _, _ :: _, [], _, h => by cases h
  | k, l :: names, v :: rest, cs, h => by
    rw [itemConditions?] at h
    split_ifs at h
    · exact ordered_of_readArray? h
    · exact ordered_of_itemConditions? h
termination_by structural _ _ vs => vs

theorem ordered_of_readArray? : ∀ {nested : Bool} {v : Json} {cs : List Condition},
    readArray? nested v = some cs → OrderedItems cs
  | nested, .arr items, cs, h => by
    rw [readArray?] at h
    exact ordered_of_readList? h
  | _, .null, _, h | _, .bool _, _, h | _, .num _, _, h | _, .str _, _, h | _, .obj _, _, h => by cases h
termination_by structural _ v => v

theorem ordered_of_readList? : ∀ {nested : Bool} {vs : List Json} {cs : List Condition},
    readList? nested vs = some cs → OrderedItems cs
  | _, [], _, h => by cases h; exact trivial
  | nested, v :: rest, cs, h => by
    rw [readList?] at h
    split at h
    · cases h
    · next c hc =>
      obtain ⟨others, hothers, rfl⟩ := Option.map_eq_some_iff.1 h
      exact ⟨ordered_of_read? hc, ordered_of_readList? hothers⟩
termination_by structural _ vs => vs
end

end Condition

end VarSchema
