import VarSchema.Proofs.Schema.Bounds

/-!
# The tightest of some bounds

* `Side.not_narrows_trans`, `Side.toUnits_eq_of_not_narrows` : which of two numbers narrows a range more is an order
  of their values;
* `Json.IsBound` : a number as bounds are written, which its value determines; `Json.isBound_length` : a small length
  is one;
* `Node.HoldsTightest` : a node has the tightest of some values at a keyword; `Node.HoldsTightest.mergeKeyword`,
  `Node.HoldsTightest.merge` : so it has after merging, of one value more; `Node.HoldsTightest.get?_eq` : whatever their
  order, it is the same.
-/

namespace VarSchema

/-! ## The order of bounds -/

namespace Side

variable {side : Side} {l m n : Number}

theorem not_narrows_self (side : Side) (m : Number) : side.narrows m m = false := by
  cases side <;> exact decide_eq_false (Int.lt_irrefl _)

theorem not_narrows_trans (hlm : side.narrows l m = false) (hmn : side.narrows m n = false) :
    side.narrows l n = false := by
  cases side <;> simp only [narrows, Number.less, decide_eq_false_iff_not] at hlm hmn ⊢ <;> omega

theorem toUnits_eq_of_not_narrows (hmn : side.narrows m n = false) (hnm : side.narrows n m = false) :
    m.toUnits = n.toUnits := by
  cases side <;> simp only [narrows, Number.less, decide_eq_false_iff_not] at hmn hnm <;> omega

theorem narrows_ofFinite (side : Side) (x y : Binary64.Finite) :
    side.narrows (.ofFinite x) (.ofFinite y) = side.tighter (.finite x) (.finite y) := by
  cases side <;> simp only [narrows, tighter, Number.less, Binary64.lt, Number.toUnits_ofFinite]

end Side

/-! ## Values of bounds -/

/-- A binary64 is determined by its value, but for the sign of zero. -/
theorem Binary64.Finite.eq_of_toUnits_eq {x y : Binary64.Finite} (h : x.toUnits = y.toUnits) (hx : x.magnitude ≠ 0) :
    x = y := by
  have hmagnitude : x.magnitude = y.magnitude := by rw [← natAbs_toUnits, h, natAbs_toUnits]
  obtain ⟨sx, mx, rx⟩ := x
  obtain ⟨sy, my, ry⟩ := y
  obtain rfl : mx = my := hmagnitude
  have hsign : sx = sy := by
    cases sx <;> cases sy <;> simp only [toUnits, Bool.false_eq_true, if_true, if_false] at h hx ⊢ <;> omega
  rw [hsign]

theorem Number.ofFinite_eq_of_toUnits_eq {x y : Binary64.Finite} (h : x.toUnits = y.toUnits) :
    ofFinite x = ofFinite y := by
  by_cases hx : x.magnitude = 0
  · -- zero has two signs, and either is written as the whole number
    have hzero : x.toUnits = (0 : Int) * Binary64.one := by
      rw [Int.zero_mul, ← Int.natAbs_eq_zero, Binary64.natAbs_toUnits, hx]
    rw [ofFinite_eq_integer hzero (by decide +kernel), ofFinite_eq_integer (h ▸ hzero) (by decide +kernel)]
  · rw [Binary64.Finite.eq_of_toUnits_eq h hx]

/-- A number as bounds are written. -/
def Json.IsBound (w : Json) : Prop := ∃ x : Binary64.Finite, w = .num (.ofFinite x)

/-- A length below `2 ^ 53` is written as a bound of that value. -/
theorem Json.isBound_length {len : Nat} (h : len < Binary64.wholeReach) : (Json.int len).IsBound := by
  have hlen : (len : Int).natAbs ≤ Binary64.wholeReach := by omega
  obtain ⟨x, -, hx⟩ := Binary64.ofInt_of_small hlen
  exact ⟨x, by rw [Number.ofFinite_eq_integer hx (Nat.lt_of_le_of_lt hlen (by decide +kernel))]; rfl⟩

/-- Bounds of one value are the same. -/
theorem Json.IsBound.eq_of_toUnits_eq {m n : Number} (hm : (Json.num m).IsBound) (hn : (Json.num n).IsBound)
    (h : m.toUnits = n.toUnits) : m = n := by
  obtain ⟨x, hx⟩ := hm
  obtain ⟨y, hy⟩ := hn
  cases hx
  cases hy
  rw [Number.toUnits_ofFinite, Number.toUnits_ofFinite] at h
  exact Number.ofFinite_eq_of_toUnits_eq h

theorem Json.IsBound.comparable {m n : Number} (hm : (Json.num m).IsBound) (hn : (Json.num n).IsBound) (side : Side) :
    side.Comparable m n := by
  obtain ⟨x, hx⟩ := hm
  obtain ⟨y, hy⟩ := hn
  cases hx
  cases hy
  exact side.comparable_of_exact (Number.isExact_ofFinite x) (Number.isExact_ofFinite y)

/-! ## The tightest value -/

namespace Node

/-- The node has the tightest of some values at a keyword, and nothing if there are none. -/
def HoldsTightest (n : Node) (side : Side) (k : String) (values : List Json) : Prop :=
  (values = [] ∧ n.get? k = none) ∨
    ∃ m, .num m ∈ values ∧ n.get? k = some (.num m) ∧ ∀ w ∈ values, ∃ a, w = .num a ∧ side.narrows m a = false

variable {n d : Node} {side : Side} {k : String} {values : List Json}

theorem holdsTightest_toList (side : Side) (h : ∀ w, n.get? k = some w → w.IsBound) :
    n.HoldsTightest side k (n.get? k).toList := by
  cases hn : n.get? k with
  | none => exact .inl ⟨rfl, hn⟩
  | some w =>
    obtain ⟨x, rfl⟩ := h w hn
    refine .inr ⟨_, List.mem_singleton_self _, hn, List.forall_mem_singleton.2 ⟨_, rfl, side.not_narrows_self _⟩⟩

theorem HoldsTightest.congr {m : Node} (hn : n.HoldsTightest side k values) (h : m.get? k = n.get? k) :
    m.HoldsTightest side k values := by
  rw [HoldsTightest, h]
  exact hn

/-- Merging a bound adds it to the values. -/
theorem HoldsTightest.mergeKeyword (hn : n.HoldsTightest side k values) (hk : Side.ofKeyword? k = some side)
    (hvalues : ∀ u ∈ values, u.IsBound) {w : Json} (hw : w.IsBound) :
    (n.mergeKeyword k w).HoldsTightest side k (values ++ [w]) := by
  obtain ⟨x, rfl⟩ := hw
  obtain ⟨rfl, hnone⟩ | ⟨m, hm, hget, htightest⟩ := hn
  · have hkeeps : n.keeps k (.num (.ofFinite x)) = false := by
      rw [keeps, number?, hnone, hk]
      rfl
    refine .inr ⟨.ofFinite x, List.mem_singleton_self _, ?_,
      List.forall_mem_singleton.2 ⟨_, rfl, side.not_narrows_self _⟩⟩
    rw [get?_mergeKeyword, if_pos ⟨rfl, hkeeps⟩]
  · have hkeeps := keeps_eq_not_narrows hk hget ((hvalues _ hm).comparable ⟨x, rfl⟩ side)
    cases hnarrows : side.narrows m (.ofFinite x) with
    | true =>
      rw [hnarrows, Bool.not_true] at hkeeps
      refine .inr ⟨.ofFinite x, List.mem_append_right _ (List.mem_singleton_self _), ?_,
        List.forall_mem_append.2 ⟨fun u hu => ?_, List.forall_mem_singleton.2 ⟨_, rfl, side.not_narrows_self _⟩⟩⟩
      · rw [get?_mergeKeyword, if_pos ⟨rfl, hkeeps⟩]
      · obtain ⟨a, rfl, ha⟩ := htightest u hu
        exact ⟨a, rfl, Side.not_narrows_trans (Side.not_narrows_of_narrows hnarrows) ha⟩
    | false =>
      rw [hnarrows, Bool.not_false] at hkeeps
      refine .inr ⟨m, List.mem_append_left _ hm, ?_,
        List.forall_mem_append.2 ⟨htightest, List.forall_mem_singleton.2 ⟨_, rfl, hnarrows⟩⟩⟩
      rw [get?_mergeKeyword, if_neg (by rw [hkeeps]; simp), hget]

/-- Merging adds the values that are merged. -/
theorem HoldsTightest.merge (hn : n.HoldsTightest side k values) (hk : Side.ofKeyword? k = some side)
    (hvalues : ∀ u ∈ values, u.IsBound) (hd : ∀ w, d.get? k = some w → w.IsBound) :
    (n.merge d).HoldsTightest side k (values ++ (d.get? k).toList) := by
  cases hget : d.get? k with
  | none =>
    rw [Option.toList_none, List.append_nil]
    exact hn.congr (get?_merge_of_none hget n)
  | some w => exact (hn.mergeKeyword hk hvalues (hd w hget)).congr (get?_merge_of_some hget n)

/-- The tightest of the same values is the same, whatever their order. -/
theorem HoldsTightest.get?_eq {m : Node} {others : List Json} (hn : n.HoldsTightest side k values)
    (hm : m.HoldsTightest side k others) (hsame : ∀ w, w ∈ values ↔ w ∈ others)
    (hvalues : ∀ w ∈ values, w.IsBound) : n.get? k = m.get? k := by
  obtain ⟨rfl, hnone⟩ | ⟨a, ha, hget, htightest⟩ := hn
  · obtain ⟨-, hnone'⟩ | ⟨b, hb, -⟩ := hm
    · rw [hnone, hnone']
    · cases (hsame _).2 hb
  · obtain ⟨rfl, -⟩ | ⟨b, hb, hget', htightest'⟩ := hm
    · cases (hsame _).1 ha
    · obtain ⟨a', haa, hba⟩ := htightest' _ ((hsame _).1 ha)
      obtain ⟨b', hbb, hab⟩ := htightest _ ((hsame _).2 hb)
      cases haa
      cases hbb
      have hunits := Side.toUnits_eq_of_not_narrows hab hba
      rw [hget, hget', (hvalues _ ha).eq_of_toUnits_eq (hvalues _ ((hsame _).2 hb)) hunits]

end Node

end VarSchema
