import VarSchema.Number.Basic

/-!
# Numbers that are binary64 numbers

* `Binary64.representable_mul_one` : whole numbers up to `wholeReach = 2 ^ 53` are representable;
* `Binary64.ofUnits_of_representable` : a representable number of units is read without rounding;
  `Binary64.le_of_ofUnits` : rounding does not go below a power of two;
* `Number.isExact` : the binary64 reading has the number's value; `Number.isSmall` : below `2 ^ 53` in
  absolute value;
* `Number.toUnits_ofFinite`, `Number.isExact_ofFinite` : a finite binary64 is a JSON number of the same
  value, and that number is exact;
* `Number.lt_toBinary64` : the readings of exact numbers are in the order of the numbers; `Number.le_toBinary64` : a
  whole number beyond the representable ones is not read as a smaller one.
-/

namespace VarSchema

namespace Binary64

/-! ## Representable whole numbers -/

/-- Whole numbers up to this one are all representable. -/
def wholeReach : Nat := twoPow 53

theorem twoPow_dvd_twoPow {a b : Nat} (h : a ≤ b) : twoPow a ∣ twoPow b := Nat.pow_dvd_pow 2 h

theorem twoPow_add (a b : Nat) : twoPow (a + b) = twoPow a * twoPow b := Nat.pow_add 2 a b

theorem log2_mul_twoPow {k : Nat} (hk : k ≠ 0) (e : Nat) : (k * twoPow e).log2 = k.log2 + e := by
  have he : twoPow e ≠ 0 := Nat.ne_of_gt (twoPow_pos e)
  rw [Nat.log2_eq_iff (Nat.mul_ne_zero hk he)]
  constructor
  · rw [Nat.pow_add]
    exact Nat.mul_le_mul_right _ (Nat.log2_self_le hk)
  · rw [show k.log2 + e + 1 = k.log2 + 1 + e by omega, Nat.pow_add]
    exact Nat.mul_lt_mul_of_pos_right Nat.lt_log2_self (twoPow_pos e)

theorem representable_mul_one {k : Nat} (hk : k ≤ wholeReach) : Representable (k * one) := by
  constructor
  · rcases Nat.eq_zero_or_pos k with rfl | hpos
    · rw [Nat.zero_mul, Nat.zero_mod]
    rcases Nat.lt_or_eq_of_le hk with hlt | rfl
    · have hlog : k.log2 < 53 := (Nat.log2_lt (Nat.ne_of_gt hpos)).2 hlt
      rw [spacing, one, log2_mul_twoPow (Nat.ne_of_gt hpos)]
      exact Nat.mod_eq_zero_of_dvd (Nat.dvd_mul_left_of_dvd (twoPow_dvd_twoPow (by omega)) k)
    · decide +kernel
  · exact Nat.lt_of_le_of_lt (Nat.mul_le_mul_right one hk) (by decide +kernel)

theorem mul_one_lt_mul_one {i j : Int} : i * (one : Int) < j * (one : Int) ↔ i < j := by
  have hone : (0 : Int) < one := by have := one_pos; omega
  exact Int.mul_lt_mul_right hone

theorem mul_one_inj {i j : Int} : i * (one : Int) = j * (one : Int) ↔ i = j := by
  have hone : (one : Int) ≠ 0 := by have := one_pos; omega
  exact Int.mul_eq_mul_right_iff hone

theorem natAbs_mul_one (i : Int) : (i * (one : Int)).natAbs = i.natAbs * one := by
  rw [Int.natAbs_mul, Int.natAbs_natCast]

theorem ofUnits_of_representable {u : Int} (hu : Representable u.natAbs) :
    ∃ x : Finite, ofUnits u = .finite x ∧ x.toUnits = u := by
  refine ⟨⟨decide (u < 0), u.natAbs, hu⟩, ofRatio_of_representable _ hu, ?_⟩
  rw [Finite.toUnits]
  by_cases h : u < 0
  · simp only [h, decide_true, if_true]
    omega
  · simp only [h, decide_false, Bool.false_eq_true, if_false]
    omega

theorem natAbs_toUnits (x : Finite) : x.toUnits.natAbs = x.magnitude := by
  rw [Finite.toUnits]
  split <;> simp

theorem magnitude_of_toUnits {x : Finite} {i : Int} (hx : x.toUnits = i * one) : x.magnitude = i.natAbs * one := by
  rw [← natAbs_toUnits, hx, natAbs_mul_one]

theorem representable_natAbs (x : Finite) : Representable x.toUnits.natAbs := by
  rw [natAbs_toUnits]
  exact x.representable

theorem ofInt_of_small {i : Int} (hi : i.natAbs ≤ wholeReach) :
    ∃ x : Finite, ofInt i = .finite x ∧ x.toUnits = i * one := by
  refine ofUnits_of_representable ?_
  rw [natAbs_mul_one]
  exact representable_mul_one hi

/-! ## Rounding of large numbers -/

theorem div_le_roundDiv (n d : Nat) : n / d ≤ roundDiv n d := by
  unfold roundDiv
  dsimp only
  split
  · exact Nat.le_refl _
  · split
    · exact Nat.le_succ _
    · exact Nat.le_add_right _ _

theorem twoPow_le_roundRatio {n p : Nat} (hp : 52 ≤ p) (hn : twoPow p ≤ n) :
    twoPow p ≤ roundRatio n 1 := by
  have hpos : n ≠ 0 := Nat.ne_of_gt (Nat.lt_of_lt_of_le (twoPow_pos p) hn)
  have hlog : p ≤ n.log2 := (Nat.le_log2 hpos).2 hn
  have hsplit : twoPow n.log2 = twoPow 52 * spacing n := by
    rw [spacing, ← twoPow_add, Nat.add_sub_cancel' (Nat.le_trans hp hlog)]
  have hdiv : twoPow 52 ≤ n / spacing n := by
    rw [Nat.le_div_iff_mul_le (spacing_pos n), ← hsplit]
    exact Nat.log2_self_le hpos
  rw [roundRatio, Nat.div_one, Nat.one_mul]
  calc twoPow p ≤ twoPow n.log2 := Nat.pow_le_pow_right (by decide) hlog
    _ = twoPow 52 * spacing n := hsplit
    _ ≤ roundDiv n (spacing n) * spacing n :=
      Nat.mul_le_mul_right _ (Nat.le_trans hdiv (div_le_roundDiv _ _))

/-- Rounding does not go below a power of two. -/
theorem le_of_ofUnits {u : Int} {p : Nat} (hp : 52 ≤ p) (hu : (twoPow p : Int) ≤ u) :
    ofUnits u = .infinite false ∨ ∃ x : Finite, ofUnits u = .finite x ∧ (twoPow p : Int) ≤ x.toUnits := by
  have hneg : decide (u < 0) = false := by
    have := twoPow_pos p
    exact decide_eq_false (by omega)
  have hle := twoPow_le_roundRatio hp (show twoPow p ≤ u.natAbs by omega)
  rw [ofUnits, hneg, ofRatio]
  split
  · next h => exact .inr ⟨⟨false, roundRatio u.natAbs 1, h⟩, rfl, by simp only [Finite.toUnits]; simpa using hle⟩
  · exact .inl rfl

end Binary64

namespace Number

/-! ## Exact numbers -/

/-- Whether the binary64 reading has the number's value. -/
def isExact (n : Number) : Bool :=
  match n.toBinary64 with
  | .finite x => x.toUnits == n.toUnits
  | _ => false

/-- Whether the number is below `2 ^ 53` in absolute value. -/
def isSmall (n : Number) : Bool := n.toUnits.natAbs < Binary64.wholeReach * Binary64.one

theorem isExact_iff {n : Number} :
    n.isExact = true ↔ ∃ x : Binary64.Finite, n.toBinary64 = .finite x ∧ x.toUnits = n.toUnits := by
  unfold isExact
  cases h : n.toBinary64 <;> simp

theorem isExact_float (x : Binary64.Finite) : (float x).isExact = true :=
  isExact_iff.2 ⟨x, rfl, rfl⟩

theorem isExact_integer {i : Int} (hi : i.natAbs ≤ Binary64.wholeReach) : (integer i).isExact = true :=
  isExact_iff.2 (Binary64.ofInt_of_small hi)

theorem toUnits_integer (i : Int) : (integer i).toUnits = i * Binary64.one := rfl

theorem less_integer (i j : Int) : (integer i).less (integer j) = decide (i < j) :=
  decide_eq_decide.2 Binary64.mul_one_lt_mul_one

theorem equal_integer (i j : Int) : (integer i).equal (integer j) = decide (i = j) :=
  decide_eq_decide.2 Binary64.mul_one_inj

/-- The readings of exact numbers are in the order of the numbers. -/
theorem lt_toBinary64 {m n : Number} (hm : m.isExact = true) (hn : n.isExact = true) :
    m.toBinary64.lt n.toBinary64 = m.less n := by
  obtain ⟨x, hx, hxu⟩ := isExact_iff.1 hm
  obtain ⟨y, hy, hyu⟩ := isExact_iff.1 hn
  rw [hx, hy, less, ← hxu, ← hyu]
  rfl

/-- A whole number beyond the representable ones is read as infinite, or as at least the last of these. -/
theorem le_toBinary64 {len : Nat} (h : Binary64.wholeReach ≤ len) :
    (integer len).toBinary64 = .infinite false ∨
      ∃ x : Binary64.Finite, (integer len).toBinary64 = .finite x ∧
        (Binary64.wholeReach : Int) * Binary64.one ≤ x.toUnits := by
  have hpow : (twoPow (53 + 1074) : Int) = (Binary64.wholeReach : Int) * Binary64.one := by
    rw [Binary64.twoPow_add, Int.natCast_mul, Binary64.wholeReach, Binary64.one]
  have hle : (twoPow (53 + 1074) : Int) ≤ (len : Int) * Binary64.one := by
    rw [hpow]
    exact Int.mul_le_mul_of_nonneg_right (by omega) (by omega)
  rw [← hpow]
  exact Binary64.le_of_ofUnits (by decide) hle

/-! ## Binary64 numbers as JSON numbers -/

theorem toInt_mul_one {x : Binary64.Finite} (hx : x.isWhole = true) :
    x.toInt * Binary64.one = x.toUnits := by
  have hdvd : Binary64.one ∣ x.magnitude := Nat.dvd_of_mod_eq_zero (by simpa [Binary64.Finite.isWhole] using hx)
  refine Int.tdiv_mul_cancel (Int.natAbs_dvd_natAbs.1 ?_)
  rwa [Int.natAbs_natCast, Binary64.natAbs_toUnits]

/-- A finite binary64 is a JSON number of the same value. -/
theorem toUnits_ofFinite (x : Binary64.Finite) : (ofFinite x).toUnits = x.toUnits := by
  unfold ofFinite
  split
  · next h => exact toInt_mul_one (by simp only [Bool.and_eq_true] at h; exact h.1)
  · rfl

theorem isExact_ofFinite (x : Binary64.Finite) : (ofFinite x).isExact = true := by
  have hu := toUnits_ofFinite x
  unfold ofFinite at hu ⊢
  split at hu
  · next h =>
    rw [if_pos h, isExact_iff, hu]
    change ∃ y, Binary64.ofUnits (x.toInt * Binary64.one) = .finite y ∧ y.toUnits = x.toUnits
    rw [show x.toInt * (Binary64.one : Int) = x.toUnits from hu]
    exact Binary64.ofUnits_of_representable (Binary64.representable_natAbs x)
  · next h => rw [if_neg h]; exact isExact_float x

/-- A whole binary64 below `2 ^ 63` is an integer. -/
theorem ofFinite_eq_integer {x : Binary64.Finite} {i : Int} (hx : x.toUnits = i * Binary64.one)
    (hi : i.natAbs < wholeLimit) : ofFinite x = .integer i := by
  have hone : (Binary64.one : Int) ≠ 0 := by have := Binary64.one_pos; omega
  have hmag := Binary64.magnitude_of_toUnits hx
  have hwhole : x.isWhole = true := by simp [Binary64.Finite.isWhole, hmag]
  have hlt : x.magnitude < wholeLimit * Binary64.one := by
    rw [hmag]
    exact Nat.mul_lt_mul_of_pos_right hi Binary64.one_pos
  rw [ofFinite, if_pos (by simp [hwhole, hlt]), Binary64.Finite.toInt, hx, Int.mul_tdiv_cancel _ hone]

end Number

end VarSchema
