import VarSchema.Proofs.Number.Exact
import VarSchema.Proofs.Schema.Keywords

/-!
# What bounds assert, and which of two is tighter

* `Side.narrows` : whether a number narrows a range more than another, by value; `Side.Comparable` : the
  binary64 readings, by which nodes are merged, say the same; `Side.comparable_of_exact`,
  `Side.comparable_of_reach` : of exact numbers, and of a large length and a bound;
* `Json.IsExactCount` : a natural number that is read without rounding; two of these are comparable;
* `Assertion.holds_of_not_narrows` : a bound follows from one that is as tight;
* `Node.HoldsAt` : a value meets what a node has at a keyword; `Node.holdsAt_mergeKeyword`,
  `Node.holdsAt_merge` : at a bound keyword, merging is conjunction, if the bounds are comparable.
-/

namespace VarSchema

namespace Side

/-- The keywords that count code points, items or entries. -/
def countKeywords : List String :=
  ["minItems", "minProperties", "minLength", "maxItems", "maxProperties", "maxLength"]

theorem isSome_ofKeyword?_of_count : ∀ k ∈ countKeywords, (ofKeyword? k).isSome = true := by decide

/-- Whether a number narrows a range more than another. -/
def narrows (side : Side) (current candidate : Number) : Bool :=
  match side with
  | lower => current.less candidate
  | upper => candidate.less current

/-- The readings of two bounds are in the order of the bounds. -/
def Comparable (side : Side) (current candidate : Number) : Prop :=
  side.tighter current.toBinary64 candidate.toBinary64 = side.narrows current candidate

theorem comparable_of_exact (side : Side) {m n : Number} (hm : m.isExact = true) (hn : n.isExact = true) :
    side.Comparable m n := by
  cases side
  · exact Number.lt_toBinary64 hm hn
  · exact Number.lt_toBinary64 hn hm

/-- A whole number beyond the representable ones is read as at least the last of these. -/
theorem comparable_of_reach {side : Side} {len i : Nat} (hlen : Binary64.wholeReach ≤ len)
    (hi : i ≤ Binary64.wholeReach) (hupper : side = upper → i < Binary64.wholeReach) :
    side.Comparable (.integer len) (.integer i) := by
  obtain ⟨y, hy, hyu⟩ := Binary64.ofInt_of_small (i := i) (by simpa using hi)
  have hyread : (Number.integer i).toBinary64 = .finite y := hy
  rw [Comparable, hyread]
  rcases Number.le_toBinary64 hlen with hread | ⟨x, hread, hx⟩
  · rw [hread]
    cases side with
    | lower =>
      rw [tighter, narrows, Number.less_integer]
      exact (decide_eq_false (by omega)).symm
    | upper =>
      rw [tighter, narrows, Number.less_integer]
      exact (decide_eq_true (by have := hupper rfl; omega)).symm
  · rw [hread]
    cases side with
    | lower =>
      have hle : (i : Int) * Binary64.one ≤ Binary64.wholeReach * Binary64.one :=
        Int.mul_le_mul_of_nonneg_right (by omega) (by omega)
      rw [tighter, narrows, Number.less_integer, Binary64.lt, decide_eq_false (by omega), decide_eq_false (by omega)]
    | upper =>
      have hlt : (i : Int) * Binary64.one < Binary64.wholeReach * Binary64.one :=
        Binary64.mul_one_lt_mul_one.2 (by have := hupper rfl; omega)
      have hlen : (i : Int) < len := by have := hupper rfl; omega
      rw [tighter, narrows, Number.less_integer, Binary64.lt, decide_eq_true (by omega), decide_eq_true hlen]

theorem not_narrows_of_narrows {side : Side} {m n : Number} (h : side.narrows m n = true) :
    side.narrows n m = false := by
  cases side <;> simp only [narrows, Number.less, decide_eq_true_eq, decide_eq_false_iff_not] at h ⊢ <;> omega

theorem ofKeyword?_eq_some {k : String} {side : Side} (h : ofKeyword? k = some side) :
    (side = lower ∧ k ∈ ["minimum", "exclusiveMinimum", "minItems", "minProperties", "minLength"]) ∨
    (side = upper ∧ k ∈ ["maximum", "exclusiveMaximum", "maxItems", "maxProperties", "maxLength"]) := by
  unfold ofKeyword? at h
  split at h
  · next hk => exact .inl ⟨by cases h; rfl, hk⟩
  · split at h
    · next hk => exact .inr ⟨by cases h; rfl, hk⟩
    · cases h

theorem tighter_congr (side : Side) (current : Binary64) {x y : Binary64.Finite}
    (h : x.toUnits = y.toUnits) : side.tighter current (.finite x) = side.tighter current (.finite y) := by
  cases side <;> cases current <;> simp only [tighter, Binary64.lt, h]

end Side

namespace Assertion

theorem compares_mono {r : Number → Number → Bool} {m n : Number} (h : ∀ x, r x m = true → r x n = true)
    {v : Json} (hv : compares r (.num m) v = true) : compares r (.num n) v = true := by
  cases v with
  | num x => exact h x hv
  | _ => rfl

theorem counts_integer (k : String) (r : Int → Int → Bool) (i : Int) (v : Json) :
    counts k r (.num (.integer i)) v = (count? k v).all fun n => r n i := by
  rw [counts, limit?]
  cases count? k v <;> rfl

theorem counts_mono {k : String} {r : Int → Int → Bool} {i j : Int} (h : ∀ x, r x i = true → r x j = true)
    {v : Json} (hv : counts k r (.num (.integer i)) v = true) :
    counts k r (.num (.integer j)) v = true := by
  rw [counts_integer, Option.all_eq_true] at hv ⊢
  exact fun x hx => h x (hv x hx)

/-- A bound follows from one that is as tight. -/
theorem holds_of_not_narrows {k : String} {side : Side} (hk : Side.ofKeyword? k = some side) {m n : Number}
    (hcount : k ∈ Side.countKeywords → (∃ i, m = .integer i) ∧ ∃ j, n = .integer j)
    (hmn : side.narrows m n = false) {v : Json} (hv : holds k (.num m) v = true) :
    holds k (.num n) v = true := by
  rcases Side.ofKeyword?_eq_some hk with ⟨rfl, hmem⟩ | ⟨rfl, hmem⟩
  all_goals
    simp only [List.mem_cons, List.not_mem_nil, or_false] at hmem
    rcases hmem with rfl | rfl | hmem
  -- two keywords of each side compare numbers
  case inl.inl | inl.inr.inl | inr.inl | inr.inr.inl =>
    simp only [Side.narrows, Number.less, decide_eq_false_iff_not] at hmn
    simp only [holds] at hv ⊢
    refine compares_mono (fun x hx => ?_) hv
    simp only [Number.less, Bool.not_eq_true', decide_eq_false_iff_not, decide_eq_true_eq] at hx ⊢
    omega
  -- the others count
  all_goals
    obtain ⟨⟨i, rfl⟩, j, rfl⟩ := hcount (by rcases hmem with rfl | rfl | rfl <;> simp [Side.countKeywords])
    rw [Side.narrows, Number.less_integer, decide_eq_false_iff_not] at hmn
    rcases hmem with rfl | rfl | rfl
    all_goals
      simp only [holds] at hv ⊢
      refine counts_mono (fun x hx => ?_) hv
      simp only [decide_eq_true_eq] at hx ⊢
      omega

end Assertion

/-! ## Merging bounds -/

/-- The values of two nodes at a bound keyword: numbers that are comparable, and whole if the keyword
counts. -/
def Side.ComparableAt (side : Side) (k : String) (u w : Json) : Prop :=
  ∃ m n : Number, u = .num m ∧ w = .num n ∧ side.Comparable m n ∧
    (k ∈ countKeywords → (∃ i, m = .integer i) ∧ ∃ j, n = .integer j)

/-- A natural number that is read without rounding. -/
def Json.IsExactCount (w : Json) : Prop := ∃ i : Nat, w = .int i ∧ (Number.integer i).isExact = true

theorem Json.IsExactCount.comparableAt {k : String} {u w : Json} (hu : u.IsExactCount) (hw : w.IsExactCount)
    (side : Side) : side.ComparableAt k u w := by
  obtain ⟨i, rfl, hi⟩ := hu
  obtain ⟨j, rfl, hj⟩ := hw
  exact ⟨.integer i, .integer j, rfl, rfl, side.comparable_of_exact hi hj, fun _ => ⟨⟨i, rfl⟩, j, rfl⟩⟩

namespace Node

/-- The value meets what the node has at a keyword. -/
def HoldsAt (n : Node) (k : String) (v : Json) : Prop :=
  ∀ w, n.get? k = some w → Assertion.holds k w v = true

theorem HoldsAt.congr {n m : Node} {k : String} (h : n.get? k = m.get? k) {v : Json} :
    n.HoldsAt k v ↔ m.HoldsAt k v := by
  rw [HoldsAt, HoldsAt, h]

/-- A node without schemas inside accepts what meets it at every keyword. -/
theorem accepts_iff_holdsAt {n : Node}
    (h : ∀ k ∈ ["properties", "additionalProperties", "items", "anyOf"], n.get? k = none) (v : Json) :
    Schema.accepts n.toJson v = true ↔ ∀ k, n.HoldsAt k v := by
  rw [Schema.accepts_toJson_iff]
  refine forall_congr' fun k => forall_congr' fun w => imp_congr_right fun hk => ?_
  rw [Schema.asserts_eq_holds fun hm => by rw [h k hm] at hk; cases hk]

theorem keeps_eq_not_narrows {n : Node} {k : String} {side : Side} (hk : Side.ofKeyword? k = some side)
    {a b : Number} (ha : n.get? k = some (.num a)) (hab : side.Comparable a b) :
    n.keeps k (.num b) = !side.narrows a b := by
  rw [← hab, keeps, hk, number?, ha]
  rfl

/-- Merging a bound adds it to what the node asserts at its keyword. -/
theorem holdsAt_mergeKeyword {n : Node} {k : String} {side : Side} (hk : Side.ofKeyword? k = some side)
    {w : Json} (hw : ∀ u, n.get? k = some u → side.ComparableAt k u w) (v : Json) :
    (n.mergeKeyword k w).HoldsAt k v ↔ n.HoldsAt k v ∧ Assertion.holds k w v = true := by
  cases hn : n.get? k with
  | none =>
    have hkeep : n.keeps k w = false := by
      rw [keeps, number?, hn, hk]
      rfl
    simp [HoldsAt, get?_mergeKeyword, hkeep, hn]
  | some u =>
    obtain ⟨a, b, rfl, rfl, hab, hcount⟩ := hw u hn
    have hkeep := keeps_eq_not_narrows hk hn hab
    cases hnar : side.narrows a b with
    | true =>
      have himp := fun h => Assertion.holds_of_not_narrows hk (fun hc => (hcount hc).symm)
        (Side.not_narrows_of_narrows hnar) (v := v) h
      simp only [HoldsAt, get?_mergeKeyword, hkeep, hnar, hn, Bool.not_true, and_self, if_true,
        Option.some.injEq, forall_eq']
      exact ⟨fun h => ⟨himp h, h⟩, fun h => h.2⟩
    | false =>
      have himp := fun h => Assertion.holds_of_not_narrows hk hcount hnar (v := v) h
      simp only [HoldsAt, get?_mergeKeyword, hkeep, hnar, hn, Bool.not_false, Bool.true_eq_false, and_false,
        if_false, Option.some.injEq, forall_eq']
      exact ⟨fun h => ⟨h, himp h⟩, fun h => h.1⟩

theorem get?_merge_of_some {d : Node} {k : String} {w : Json} (h : d.get? k = some w) (n : Node) :
    (n.merge d).get? k = (n.mergeKeyword k w).get? k := by
  rw [get?_merge, h, get?_mergeKeyword]
  cases hkeep : n.keeps k w <;> simp [hkeep]

/-- At a bound keyword, merging is conjunction. -/
theorem holdsAt_merge {n d : Node} {k : String} {side : Side} (hk : Side.ofKeyword? k = some side)
    (hnd : ∀ u w, n.get? k = some u → d.get? k = some w → side.ComparableAt k u w) (v : Json) :
    (n.merge d).HoldsAt k v ↔ n.HoldsAt k v ∧ d.HoldsAt k v := by
  cases hd : d.get? k with
  | none =>
    rw [HoldsAt.congr (get?_merge_of_none hd n)]
    simp [HoldsAt, hd]
  | some w =>
    rw [HoldsAt.congr (get?_merge_of_some hd n), holdsAt_mergeKeyword hk (fun u hu => hnd u w hu hd)]
    simp [HoldsAt, hd]

end Node

end VarSchema
