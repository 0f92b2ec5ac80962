import VarSchema.Proofs.Condition.Grammar
import VarSchema.Proofs.Rule.Recognition

/-!
# Chains of equalities

* `Enumeration.Equates` : an equality of the variable with a constant, on either side;
* `Enumeration.alternative` : the constant of one link; `Enumeration.alternative_eq_ok_iff` : a link has one just if it
  is such an equality;
* `Enumeration.alternatives_eq_mapM` : a chain is read link by link, so that it never matters how it is grouped;
* `Enumeration.recognize_equalities` : the chains that are recognized, and their keywords.
-/

namespace VarSchema

namespace Enumeration

variable {name : String} {c : Condition} {v : Json} {values : List Json} {d : Node}

/-! ## Links -/

/-- An equality of the variable with a constant, on either side. -/
inductive Equates (name : String) : Condition → Json → Prop
  | left {s b : Condition} {v : Json} : s.IsReference name → b.Denotes v → Equates name (.compare .eq s b) v
  | right {s b : Condition} {v : Json} : s.IsReference name → b.Denotes v → Equates name (.compare .eq b s) v

/-- The constant of a link. -/
def alternative (name : String) : Condition → Except Reason Json
  | .compare .eq l r => equated name l r
  | .compare op _ _ => .error (.operatorNotEquality op)
  | .and _ _ => .error .conjunctionNotEquality
  | _ => .error .notEvaluable

theorem equates_compare_iff {op : Comparison} {l r : Condition} : Equates name (.compare op l r) v ↔
    op = .eq ∧ ((l.IsReference name ∧ r.Denotes v) ∨ (r.IsReference name ∧ l.Denotes v)) := by
  constructor
  · rintro (⟨hs, hb⟩ | ⟨hs, hb⟩)
    · exact ⟨rfl, .inl ⟨hs, hb⟩⟩
    · exact ⟨rfl, .inr ⟨hs, hb⟩⟩
  · rintro ⟨rfl, ⟨hs, hb⟩ | ⟨hs, hb⟩⟩
    · exact .left hs hb
    · exact .right hs hb

theorem alternative_eq_ok_iff : ∀ {link : Condition}, alternative name link = .ok v ↔ Equates name link v
  | .compare op l r => by
    rw [equates_compare_iff, ← Condition.isVar_iff, ← Condition.isVar_iff, ← Condition.literalValue?_eq_some_iff,
      ← Condition.literalValue?_eq_some_iff, ← equated_eq_ok_iff]
    cases op with
    | eq => exact (and_iff_right rfl).symm
    | _ => exact iff_of_false nofun (fun h => nomatch h.1)
  | .and .. | .or .. | .call .. | .varRef _ | .length _ | .literal _ | .list _ | .paren _ => iff_of_false nofun nofun

/-! ## Chains -/

/-- A chain is read link by link. -/
theorem alternatives_eq_mapM : ∀ c : Condition, alternatives name c = c.disjuncts.mapM (alternative name)
  | .or l r => by
    rw [alternatives, alternatives_eq_mapM l, alternatives_eq_mapM r, Condition.disjuncts, Except.mapM_append]
    cases l.disjuncts.mapM (alternative name) <;> rfl
  | .paren inner => alternatives_eq_mapM inner
  | .compare op l r => by
    cases op with
    | eq => exact (Except.mapM_singleton ..).symm
    | _ => rfl
  | .and .. | .call .. | .varRef _ | .length _ | .literal _ | .list _ => rfl
termination_by structural c => c

/-- The chains that are read are those of which each link is an equality of the variable with a constant, and what is
read are these constants. -/
theorem alternatives_eq_ok_iff_forall₂ :
    alternatives name c = .ok values ↔ List.Forall₂ (Equates name) c.disjuncts values := by
  rw [alternatives_eq_mapM, Except.mapM_eq_ok]
  simp only [alternative_eq_ok_iff]

theorem ne_nil_of_alternatives (h : alternatives name c = .ok values) : values ≠ [] := by
  rintro rfl
  exact c.disjuncts_ne_nil (List.forall₂_nil_right_iff.1 (alternatives_eq_ok_iff_forall₂.1 h))

theorem equated_ne_noOptions (l r : Condition) : equated name l r ≠ .error .noOptions := by
  unfold equated
  rcases (if r.isVar name then (r, l) else (l, r)) with ⟨subject, value⟩
  dsimp only
  split
  · split <;> nofun
  · nofun

theorem alternative_ne_noOptions : ∀ link : Condition, alternative name link ≠ .error .noOptions
  | .compare op l r => by
    cases op with
    | eq => exact equated_ne_noOptions l r
    | _ => nofun
  | .and .. | .or .. | .call .. | .varRef _ | .length _ | .literal _ | .list _ | .paren _ => by rintro ⟨⟩

/-- A chain that is read has a value, so that an empty list is never the reason of a refusal. -/
theorem ofEqualities_ne_noOptions : ofEqualities name c ≠ .error .noOptions := by
  intro h
  unfold ofEqualities at h
  split at h
  · next e halternatives =>
    cases h
    rw [alternatives_eq_mapM] at halternatives
    obtain ⟨link, -, hlink⟩ := Except.exists_of_mapM_eq_error halternatives
    exact alternative_ne_noOptions link hlink
  · next hnil => exact ne_nil_of_alternatives hnil rfl
  · cases h

theorem ofEqualities_congr {other : Condition} (h : other.disjuncts = c.disjuncts) :
    ofEqualities name other = ofEqualities name c := by
  rw [ofEqualities, ofEqualities, alternatives_eq_mapM, alternatives_eq_mapM, h]

theorem eq_node_iff : d = node values ↔ d.entries = [("enum", .arr values)] := by
  constructor
  · rintro rfl
    rfl
  · intro h
    refine Node.ext_get? fun k => ?_
    show Entries.get? k d.entries = Entries.get? k (node values).entries
    rw [h]
    rfl

/-- **A condition is recognized as a chain of equalities if and only if each of its links is an equality of the
variable with a constant. Its keywords are the list of these constants, from left to right, and however the links are
grouped, the result is the same.** -/
theorem recognize_equalities (name : String) (type : Option String) (c : Condition) :
    ((Rule.equalityChain.recognize name type c).isOk = true ↔ ∀ link ∈ c.disjuncts, ∃ v, Equates name link v) ∧
    (∀ d, Rule.equalityChain.recognize name type c = .ok d ↔ ∃ values, List.Forall₂ (Equates name) c.disjuncts values ∧
      values ≠ [] ∧ d.entries = [("enum", .arr values)]) ∧
    (∀ other : Condition, other.disjuncts = c.disjuncts →
      Rule.equalityChain.recognize name type other = Rule.equalityChain.recognize name type c) ∧
    Rule.equalityChain.recognize name type c ≠ .error .noOptions := by
  have hok (d : Node) : Rule.equalityChain.recognize name type c = .ok d ↔ ∃ values,
      List.Forall₂ (Equates name) c.disjuncts values ∧ values ≠ [] ∧ d.entries = [("enum", .arr values)] := by
    have hrecognize : Rule.equalityChain.recognize name type c = ofEqualities name c := rfl
    rw [hrecognize, ofEqualities_eq_ok_iff]
    simp only [alternatives_eq_ok_iff_forall₂, eq_node_iff]
  refine ⟨?_, hok, fun other hother => ofEqualities_congr hother, ofEqualities_ne_noOptions⟩
  have hread : (alternatives name c).isOk = true ↔ ∀ link ∈ c.disjuncts, ∃ v, Equates name link v := by
    rw [alternatives_eq_mapM, Except.isOk_mapM_iff]
    simp only [Except.isOk_iff, alternative_eq_ok_iff]
  rw [← hread, Except.isOk_iff, Except.isOk_iff]
  constructor
  · rintro ⟨d, hd⟩
    obtain ⟨values, hvalues, -⟩ := (hok d).1 hd
    exact ⟨values, alternatives_eq_ok_iff_forall₂.2 hvalues⟩
  · rintro ⟨values, hvalues⟩
    have hnonempty := ne_nil_of_alternatives hvalues
    exact ⟨node values, (hok _).2 ⟨values, alternatives_eq_ok_iff_forall₂.1 hvalues, hnonempty, rfl⟩⟩

/-- Three links, the second with its operands swapped and a list inside a list, and the third repeating the first, in
both groupings. -/
theorem recognize_equalities_regrouped :
    let a : Condition := .compare .eq (.varRef "x") (.literal (.int 1))
    let nested : Condition := .list [.literal .null, .list [.paren (.literal (.bool true))]]
    let b : Condition := .compare .eq nested (.paren (.varRef "x"))
    let left : Condition := .or (.paren (.or a b)) a
    let right : Condition := .or a (.or b (.paren (.paren a)))
    right.disjuncts = left.disjuncts ∧ (Rule.equalityChain.recognize "x" none left).isOk = true ∧
      ∃ d, Rule.equalityChain.recognize "x" none right = .ok d ∧
        d.entries = [("enum", .arr [.int 1, .arr [.null, .arr [.bool true]], .int 1])] := by
  intro a nested b left right
  have hleaves : right.disjuncts = left.disjuncts := rfl
  have ha : Equates "x" a (.int 1) := .left .varRef (.literal _)
  have hb : Equates "x" b (.arr [.null, .arr [.bool true]]) :=
    .right (.paren .varRef)
      (.list (.cons (.literal _) (.cons (.list (.cons (.paren (.literal _)) .nil)) .nil)))
  have hvalues : List.Forall₂ (Equates "x") left.disjuncts [.int 1, .arr [.null, .arr [.bool true]], .int 1] :=
    .cons ha (.cons hb (.cons ha .nil))
  obtain ⟨hisOk, hok, hother, -⟩ := recognize_equalities "x" none left
  have hleft := (hok (node _)).2 ⟨_, hvalues, List.cons_ne_nil _ _, rfl⟩
  refine ⟨hleaves, by rw [hleft]; rfl, _, (hother right hleaves).trans hleft, rfl⟩

end Enumeration

end VarSchema
