import VarSchema.Proofs.Number.Rounding
import VarSchema.Proofs.Rule.Delta

/-!
# Keywords of conditions, whatever the literals

* `Range.adjusted`, `Range.exists_whole_of_adjusted` : the bound of a length, shifted if it is strict, is a whole number
  below `2 ^ 63`, also where the shift is absorbed; `Range.ofLength_eq_ok_iff` : the bounds of lengths;
* `Range.exists_count_of_ofLength`, `Range.ofLength_count` : they are natural numbers that are read without rounding;
* `Condition.comparisons` : the comparisons inside a condition; `Range.exists_comparison` : each bound is one of some
  comparison; `Range.exists_bound` : each keyword of the tightest bounds holds one of the bounds;
* `Condition.count_of_get?` : so the keywords of a condition that count hold natural numbers.
-/

namespace VarSchema

namespace Range

variable {op : Comparison} {x : Binary64.Finite} {v : Binary64} {type : String} {keywords : String × String}
  {bs : List Bound}

/-! ## Bounds of lengths -/

/-- By how much a strict bound of a length is shifted. -/
def adjustment : Comparison → Int
  | .gt => 1
  | .lt => -1
  | _ => 0

/-- The bound of a length, shifted if it is strict. -/
def adjusted (op : Comparison) (v : Binary64) : Binary64 :=
  match op, v with
  | .gt, .finite x => x.shift 1
  | .lt, .finite x => x.shift (-1)
  | _, v => v

/-- Which of a lower and an upper keyword bound a length. -/
def lengthKeywords (keywords : String × String) : Comparison → List String
  | .gt | .ge => [keywords.1]
  | .lt | .le => [keywords.2]
  | .eq => [keywords.1, keywords.2]
  | .ne => []

theorem natAbs_adjustment (op : Comparison) : (adjustment op).natAbs ≤ 1 := by
  cases op <;> decide

theorem lengthKeywords_ne_nil (hop : op ≠ .ne) : lengthKeywords keywords op ≠ [] := by
  cases op with
  | ne => exact absurd rfl hop
  | _ => exact List.cons_ne_nil _ _

theorem countBounds_eq_ok_iff : countBounds op x keywords = .ok bs ↔
    op ≠ .ne ∧ bs = (lengthKeywords keywords op).map fun k => (k, adjusted op (.finite x)) := by
  cases op <;> simp [countBounds, lengthKeywords, adjusted, eq_comm]

/-- A whole number below `2 ^ 63` stays one when it is adjusted, and on its side of zero, even where rounding absorbs
the shift. -/
theorem exists_whole_of_adjusted {j : Int} (hx : x.toUnits = j * Binary64.one) (hj : j.natAbs < Number.wholeLimit)
    (op : Comparison) : ∃ (y : Binary64.Finite) (m : Int), adjusted op (.finite x) = .finite y ∧
      y.toUnits = m * Binary64.one ∧ m.natAbs < Number.wholeLimit ∧ (0 ≤ m ↔ 0 ≤ j + adjustment op) := by
  have hshift (i : Int) (hi : i.natAbs ≤ 1) : ∃ (y : Binary64.Finite) (m : Int), x.shift i = .finite y ∧
      y.toUnits = m * Binary64.one ∧ m.natAbs < Number.wholeLimit ∧ (0 ≤ m ↔ 0 ≤ j + i) := by
    obtain ⟨y, m, hy, hyu, hm⟩ := Binary64.exists_whole_of_shift hx hj hi
    have hread : Binary64.ofInt (j + i) = .finite y := by
      rw [← hy, Binary64.Finite.shift, hx, ← Int.add_mul]
      rfl
    have hsign := Binary64.nonneg_add_iff_of_ofInt hread hyu (k := 0) (by decide)
    exact ⟨y, m, hy, hyu, hm, by omega⟩
  cases op with
  | gt => exact hshift 1 (by decide)
  | lt => exact hshift (-1) (by decide)
  | ge | le | eq | ne => exact ⟨x, j, rfl, hx, hj, by simp [adjustment]⟩

theorem isNegative_adjusted {j : Int} (hx : x.toUnits = j * Binary64.one) (hj : j.natAbs < Number.wholeLimit)
    (op : Comparison) : (adjusted op (.finite x)).isNegative = decide (j + adjustment op < 0) := by
  obtain ⟨y, m, hy, hyu, -, hsign⟩ := exists_whole_of_adjusted hx hj op
  rw [IsInt.isNegative ⟨y, hy, hyu⟩]
  exact decide_eq_decide.2 (by omega)

/-- A length is bounded by whole numbers below `2 ^ 63`, unless the adjusted bound is negative. -/
theorem ofLength_eq_ok_iff : ofLength op v type = .ok bs ↔
    op ≠ .ne ∧ (∃ x j, v = .finite x ∧ x.toUnits = j * Binary64.one ∧ j.natAbs < Number.wholeLimit ∧
      0 ≤ j + adjustment op) ∧ bs = (lengthKeywords (countKeywords type) op).map fun k => (k, adjusted op v) := by
  constructor
  · intro h
    cases v with
    | infinite _ | nan => cases h
    | finite x =>
      obtain ⟨hwhole, hbounds, hneg⟩ := ofLength_eq_ok h
      have hx : x.toUnits = x.toInt * Binary64.one := (Number.toInt_mul_one hwhole).symm
      have hlt : x.toInt.natAbs < Number.wholeLimit := by
        rw [ofLength] at h
        split at h
        · cases h
        · next hlt => rwa [Binary64.magnitude_of_toUnits hx, Nat.not_le, Nat.mul_lt_mul_right Binary64.one_pos] at hlt
      obtain ⟨hop, rfl⟩ := countBounds_eq_ok_iff.1 hbounds
      obtain ⟨k, hk⟩ := List.exists_mem_of_ne_nil _ (lengthKeywords_ne_nil hop)
      have hnonneg := hneg _ (List.mem_map_of_mem hk)
      rw [isNegative_adjusted hx hlt, decide_eq_false_iff_not, Int.not_lt] at hnonneg
      exact ⟨hop, ⟨x, x.toInt, rfl, hx, hlt, hnonneg⟩, rfl⟩
  · rintro ⟨hop, ⟨x, j, rfl, hx, hj, hnonneg⟩, rfl⟩
    have hmagnitude := Binary64.magnitude_of_toUnits hx
    have hlimit : ¬ Number.wholeLimit * Binary64.one ≤ x.magnitude := by
      rw [hmagnitude, Nat.not_le, Nat.mul_lt_mul_right Binary64.one_pos]
      exact hj
    have hwhole : x.isWhole = true := by simp [Binary64.Finite.isWhole, hmagnitude]
    have hbounds : countBounds op x (countKeywords type) =
        .ok ((lengthKeywords (countKeywords type) op).map fun k => (k, adjusted op (.finite x))) :=
      countBounds_eq_ok_iff.2 ⟨hop, rfl⟩
    have hnone : ((lengthKeywords (countKeywords type) op).map fun k => (k, adjusted op (.finite x))).find?
        (fun b => b.2.isNegative) = none := by
      rw [List.find?_eq_none, List.forall_mem_map]
      intro k _
      rw [isNegative_adjusted hx hj, decide_eq_true_iff]
      omega
    rw [ofLength, if_neg hlimit, if_neg (by simp [hwhole]), hbounds]
    dsimp only
    rw [hnone]

/-- The bound of a length is a natural number below `2 ^ 63`. -/
theorem exists_count_of_ofLength (h : ofLength op v type = .ok bs) : ∀ b ∈ bs, ∃ (y : Binary64.Finite) (i : Nat),
    b.2 = .finite y ∧ y.toUnits = (i : Int) * Binary64.one ∧ i < Number.wholeLimit := by
  obtain ⟨-, ⟨x, j, rfl, hx, hj, hnonneg⟩, rfl⟩ := ofLength_eq_ok_iff.1 h
  rw [List.forall_mem_map]
  intro k _
  obtain ⟨y, m, hy, hyu, hm, hsign⟩ := exists_whole_of_adjusted hx hj op
  have hnat : ((m.toNat : Nat) : Int) = m := Int.toNat_of_nonneg (hsign.2 hnonneg)
  exact ⟨y, m.toNat, hy, by rw [hnat, hyu], by omega⟩

/-- It is read without rounding. -/
theorem ofLength_count (h : ofLength op v type = .ok bs) : ∀ b ∈ bs, (boundJson b.2).IsExactCount := by
  intro b hb
  obtain ⟨y, i, hy, hyu, hi⟩ := exists_count_of_ofLength h b hb
  have hnumber : Number.ofFinite y = .integer i := Number.ofFinite_eq_integer hyu hi
  refine ⟨i, by rw [hy, boundJson_finite, hnumber]; rfl, ?_⟩
  rw [← hnumber]
  exact Number.isExact_ofFinite y

end Range

/-! ## Comparisons -/

namespace Condition

/-- The comparisons inside a condition, from left to right. -/
def comparisons : Condition → List (Comparison × Condition × Condition)
  | .and l r => comparisons l ++ comparisons r
  | .or l r => comparisons l ++ comparisons r
  | .paren inner => comparisons inner
  | .compare op l r => [(op, l, r)]
  | _ => []
termination_by structural c => c

end Condition

namespace Range

/-- Each bound of a conjunction is a bound of some comparison inside. -/
theorem exists_comparison {name type : String} : ∀ {c : Condition} {bs : List Bound},
    bounds name type c = .ok bs → ∀ b ∈ bs, ∃ op l r, (op, l, r) ∈ c.comparisons ∧
      ∃ part, ofComparison name type op l r = .ok part ∧ b ∈ part
  | .and l r, bs, h, b, hb => by
    rw [bounds] at h
    split at h
    · cases h
    next ls hl =>
    obtain ⟨rs, hr, rfl⟩ := Except.map_eq_ok.1 h
    rcases List.mem_append.1 hb with hb | hb
    · obtain ⟨op, l', r', hmem, hpart⟩ := exists_comparison hl b hb
      exact ⟨op, l', r', List.mem_append_left _ hmem, hpart⟩
    · obtain ⟨op, l', r', hmem, hpart⟩ := exists_comparison hr b hb
      exact ⟨op, l', r', List.mem_append_right _ hmem, hpart⟩
  | .paren inner, bs, h, b, hb => by
    rw [bounds] at h
    exact exists_comparison (c := inner) h b hb
  | .compare op l r, bs, h, b, hb => ⟨op, l, r, List.mem_singleton.2 rfl, bs, h, hb⟩
  | .or .., _, h, _, _ | .call .., _, h, _, _ | .varRef _, _, h, _, _ | .length _, _, h, _, _
  | .literal _, _, h, _, _ | .list _, _, h, _, _ => by cases h
termination_by structural c => c

theorem not_mem_countKeywords_of_ofNumber {op : Comparison} {x : Binary64} {bs : List Bound}
    (h : ofNumber op x = .ok bs) : ∀ b ∈ bs, b.1 ∉ Side.countKeywords := by
  cases op <;> cases h <;> simp [Side.countKeywords]

/-- Whatever the literals, a bound at a keyword that counts is a natural number that is read without rounding. -/
theorem bounds_count {name type : String} {c : Condition} {bs : List Bound} (h : bounds name type c = .ok bs) :
    ∀ b ∈ bs, b.1 ∈ Side.countKeywords → (boundJson b.2).IsExactCount := by
  intro b hb hcount
  obtain ⟨op, l, r, -, part, hpart, hmem⟩ := exists_comparison h b hb
  obtain ⟨op', s, bound, n, -, -, ⟨-, -, hnum⟩ | ⟨-, -, hlen⟩⟩ := ofComparison_eq_ok hpart
  · exact absurd hcount (not_mem_countKeywords_of_ofNumber hnum b hmem)
  · exact ofLength_count hlen b hmem

theorem get?_addBound_cases {n : Node} {b : Bound} {k : String} {w : Json} (h : (addBound n b).get? k = some w) :
    n.get? k = some w ∨ b.1 = k ∧ boundJson b.2 = w := by
  by_cases hk : b.1 = k
  · subst hk
    unfold addBound at h
    split at h
    · split at h
      · rw [Node.get?_set_self] at h
        exact .inr ⟨rfl, Option.some.inj h⟩
      · exact .inl h
    · rw [Node.get?_set_self] at h
      exact .inr ⟨rfl, Option.some.inj h⟩
  · rw [get?_addBound_of_ne hk] at h
    exact .inl h

theorem get?_addBounds_cases {k : String} {w : Json} : ∀ {bs : List Bound} {n : Node},
    (bs.foldl addBound n).get? k = some w → n.get? k = some w ∨ ∃ b ∈ bs, b.1 = k ∧ boundJson b.2 = w
  | [], _, h => .inl h
  | b :: bs, n, h => by
    rw [List.foldl_cons] at h
    rcases get?_addBounds_cases h with hadd | ⟨b', hb', hbound⟩
    · rcases get?_addBound_cases hadd with hn | hb
      · exact .inl hn
      · exact .inr ⟨b, List.mem_cons_self .., hb⟩
    · exact .inr ⟨b', List.mem_cons_of_mem _ hb', hbound⟩

/-- Each keyword of the tightest bounds holds one of the bounds. -/
theorem exists_bound {bs : List Bound} {k : String} {w : Json} (h : (tightest bs).get? k = some w) :
    ∃ b ∈ bs, b.1 = k ∧ boundJson b.2 = w := by
  rcases get?_addBounds_cases h with hempty | hbound
  · cases hempty
  · exact hbound

end Range

/-! ## Keywords of conditions -/

namespace Condition

/-- Whatever the literals, the keywords of a condition that count hold natural numbers that are read without
rounding. -/
theorem count_of_get? {name : String} {n d : Node} {c : Condition} (h : c.toDelta name n = .ok d) {k : String}
    (hk : k ∈ Side.countKeywords) {w : Json} (hw : d.get? k = some w) : w.IsExactCount := by
  have hne : k ≠ "enum" ∧ k ≠ "pattern" := by
    constructor
    · rintro rfl
      revert hk
      decide
    · rintro rfl
      revert hk
      decide
  obtain ⟨-, values, rfl⟩ | ⟨t, bs, -, hbs, rfl⟩ | ⟨-, p, rfl⟩ := toDelta_cases h
  · rw [Enumeration.node, Node.get?_set_of_ne (Ne.symm hne.1)] at hw
    cases hw
  · obtain ⟨b, hb, rfl, rfl⟩ := Range.exists_bound hw
    exact Range.bounds_count hbs b hb hk
  · rw [Node.get?_set_of_ne (Ne.symm hne.2)] at hw
    cases hw

end Condition

end VarSchema
