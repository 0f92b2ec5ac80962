import VarSchema.Proofs.Number.Exact

/-!
# Rounding whole numbers

* `Binary64.roundRatio_le_of_representable` : rounding does not go above a representable magnitude;
  `Binary64.representable_roundRatio` : below the limit, what it gives is representable;
* `Binary64.one_dvd_roundRatio` : a whole number is rounded to a whole number;
* `Binary64.exists_whole_of_ofInt`, `Binary64.exists_finite_of_ofInt` : what whole numbers are rounded to, within any
  representable reach and of 64 bits;
* `Binary64.exists_whole_of_shift` : a whole number below `2 ^ 63` stays one when it is shifted by one, although beyond
  `2 ^ 53` the shift may be absorbed;
* `Binary64.roundRatio_lt_wholeLimit_iff`, `Binary64.nonneg_add_iff_of_ofInt` : which whole numbers are read below
  `2 ^ 63`, and that they are read on their side of zero; `Number.readLimit`, `Number.exists_whole_reading_iff` : so of
  numbers.
-/

namespace VarSchema

namespace Binary64

/-! ## Magnitudes -/

theorem roundRatio_one (n : Nat) : roundRatio n 1 = roundDiv n (spacing n) * spacing n := by
  rw [roundRatio, Nat.div_one, Nat.one_mul]

theorem roundDiv_le_succ (n d : Nat) : roundDiv n d ≤ n / d + 1 := by
  have hparity := Nat.mod_lt (n / d) (show 0 < 2 by decide)
  unfold roundDiv
  dsimp only
  split
  · omega
  · split
    · omega
    · omega

theorem roundDiv_le {n c d : Nat} (hd : 0 < d) (h : n ≤ c * d) : roundDiv n d ≤ c := by
  rcases Nat.lt_or_eq_of_le h with hlt | rfl
  · have hdiv : n / d < c := (Nat.div_lt_iff_lt_mul hd).2 hlt
    exact Nat.le_trans (roundDiv_le_succ n d) hdiv
  · exact Nat.le_of_eq (roundDiv_mul c hd)

theorem spacing_of_log2_le {n : Nat} (h : n.log2 ≤ 52) : spacing n = 1 := by
  rw [spacing, Nat.sub_eq_zero_of_le h]
  rfl

/-- The leading 53 bits of a magnitude are below `2 ^ 53`. -/
theorem lt_wholeReach_mul_spacing (n : Nat) : n < wholeReach * spacing n := by
  have hexp : n.log2 + 1 ≤ 53 + (n.log2 - 52) := by omega
  calc n < 2 ^ (n.log2 + 1) := Nat.lt_log2_self
    _ ≤ twoPow (53 + (n.log2 - 52)) := Nat.pow_le_pow_right (by decide) hexp
    _ = wholeReach * spacing n := twoPow_add ..

theorem roundDiv_spacing_le (n : Nat) : roundDiv n (spacing n) ≤ wholeReach :=
  roundDiv_le (spacing_pos n) (Nat.le_of_lt (lt_wholeReach_mul_spacing n))

/-- A number of at most 53 bits, moved left, stays on the grid of its magnitude. -/
theorem spacing_dvd_mul_twoPow {q : Nat} (hq : q ≤ wholeReach) (e : Nat) :
    spacing (q * twoPow e) ∣ q * twoPow e := by
  rcases Nat.eq_zero_or_pos q with rfl | hpos
  · rw [Nat.zero_mul]
    exact Nat.dvd_zero _
  rcases Nat.lt_or_eq_of_le hq with hlt | rfl
  · have hlog : q.log2 < 53 := (Nat.log2_lt (Nat.ne_of_gt hpos)).2 hlt
    rw [spacing, log2_mul_twoPow (Nat.ne_of_gt hpos)]
    exact Nat.dvd_mul_left_of_dvd (twoPow_dvd_twoPow (by omega)) q
  · rw [spacing, wholeReach, ← twoPow_add]
    have hlog : (twoPow (53 + e)).log2 = 53 + e := Nat.log2_two_pow
    exact twoPow_dvd_twoPow (by omega)

/-- What rounding gives is representable, unless it reaches the limit. -/
theorem representable_roundRatio {n : Nat} (h : roundRatio n 1 < limit) : Representable (roundRatio n 1) := by
  refine ⟨Nat.mod_eq_zero_of_dvd ?_, h⟩
  rw [roundRatio_one]
  exact spacing_dvd_mul_twoPow (roundDiv_spacing_le n) _

/-- Rounding does not go above a representable magnitude. -/
theorem roundRatio_le_of_representable {n m : Nat} (hm : Representable m) (h : n ≤ m) : roundRatio n 1 ≤ m := by
  rw [roundRatio_one]
  rcases Nat.eq_zero_or_pos n with rfl | hpos
  · exact Nat.le_trans (Nat.mul_le_mul_right _ (roundDiv_le (spacing_pos 0) (Nat.zero_le (0 * _)))) (by simp)
  have hlog : n.log2 ≤ m.log2 := (Nat.le_log2 (by omega)).2 (Nat.le_trans (Nat.log2_self_le (by omega)) h)
  rcases Nat.lt_or_eq_of_le hlog with hlt | heq
  · by_cases hsmall : n.log2 ≤ 52
    · -- among the smallest magnitudes nothing is rounded
      have hself := roundDiv_mul n (show 0 < 1 by decide)
      rw [Nat.mul_one] at hself
      rw [spacing_of_log2_le hsmall, hself, Nat.mul_one]
      exact h
    · calc roundDiv n (spacing n) * spacing n ≤ wholeReach * spacing n :=
            Nat.mul_le_mul_right _ (roundDiv_spacing_le n)
        _ = twoPow (53 + (n.log2 - 52)) := (twoPow_add ..).symm
        _ ≤ 2 ^ m.log2 := Nat.pow_le_pow_right (by decide) (by omega)
        _ ≤ m := Nat.log2_self_le (by omega)
  · have hdvd : spacing n ∣ m := by
      rw [spacing, heq]
      exact Nat.dvd_of_mod_eq_zero hm.1
    have hmul := Nat.div_mul_cancel hdvd
    calc roundDiv n (spacing n) * spacing n ≤ m / spacing n * spacing n :=
          Nat.mul_le_mul_right _ (roundDiv_le (spacing_pos n) (by omega))
      _ = m := hmul

/-- A whole number is rounded to a whole number: either the grid is one of whole numbers, or it is finer and nothing
is rounded. -/
theorem one_dvd_roundRatio (k : Nat) : one ∣ roundRatio (k * one) 1 := by
  rw [roundRatio_one]
  rcases Nat.le_total 1074 ((k * one).log2 - 52) with hcoarse | hfine
  · exact Nat.dvd_mul_left_of_dvd (twoPow_dvd_twoPow hcoarse) _
  · have hdvd : spacing (k * one) ∣ k * one := Nat.dvd_mul_left_of_dvd (twoPow_dvd_twoPow hfine) k
    have hself := roundDiv_mul (k * one / spacing (k * one)) (spacing_pos (k * one))
    rw [Nat.div_mul_cancel hdvd] at hself
    rw [hself, Nat.div_mul_cancel hdvd]
    exact Nat.dvd_mul_left ..

/-! ## Whole numbers -/

/-- A rounded whole number is whole, and within any representable reach of the number. -/
theorem exists_whole_of_ofInt {i : Int} {m : Nat} (hm : Representable (m * one))
    (hi : roundRatio (i.natAbs * one) 1 ≤ m * one) :
    ∃ (x : Finite) (j : Int), ofInt i = .finite x ∧ x.toUnits = j * one ∧ j.natAbs ≤ m := by
  have hrep := representable_roundRatio (Nat.lt_of_le_of_lt hi hm.2)
  obtain ⟨q, hq⟩ := one_dvd_roundRatio i.natAbs
  have hle : q ≤ m := by
    rw [hq, Nat.mul_comm] at hi
    exact Nat.le_of_mul_le_mul_right hi one_pos
  have hmagnitude : (roundRatio (i.natAbs * one) 1 : Int) = q * one := by
    rw [hq, Int.natCast_mul, Int.mul_comm]
  refine ⟨⟨decide (i * (one : Int) < 0), roundRatio (i.natAbs * one) 1, hrep⟩, if i * (one : Int) < 0 then -q else q,
    ?_, ?_, ?_⟩
  · rw [ofInt, ofUnits, natAbs_mul_one, ofRatio, dif_pos hrep]
  · simp only [Finite.toUnits, decide_eq_true_eq, hmagnitude]
    split
    · rw [Int.neg_mul]
    · rfl
  · split
    · omega
    · omega

/-- Whole numbers of 64 bits are rounded to finite ones. -/
theorem exists_finite_of_ofInt {i : Int} (hi : i.natAbs ≤ twoPow 64) : ∃ x : Finite, ofInt i = .finite x := by
  have hm : Representable (twoPow 64 * one) := by decide +kernel
  obtain ⟨x, -, hx, -⟩ := exists_whole_of_ofInt hm
    (roundRatio_le_of_representable hm (Nat.mul_le_mul_right one hi))
  exact ⟨x, hx⟩

/-! ## Shifts below the limit of whole numbers -/

/-- The last representable whole number below `2 ^ 63`. -/
def lastWhole : Nat := twoPow 63 - 1024

/-- Among the whole numbers of 63 bits the neighbours are 1024 apart. -/
theorem spacing_mul_one {k : Nat} (hle : twoPow 62 ≤ k) (hlt : k < Number.wholeLimit) :
    spacing (k * one) = 1024 * one := by
  have hne : k ≠ 0 := by
    rintro rfl
    exact absurd (twoPow_pos 62) (Nat.not_lt.2 hle)
  have hlog : k.log2 = 62 := (Nat.log2_eq_iff hne).2 ⟨hle, hlt⟩
  rw [spacing, one, log2_mul_twoPow hne, hlog]
  decide +kernel

theorem le_lastWhole {k : Nat} (hk : Representable (k * one)) (hlt : k < Number.wholeLimit) : k ≤ lastWhole := by
  by_cases hsmall : k < twoPow 62
  · exact Nat.le_trans (Nat.le_of_lt hsmall) (by decide +kernel)
  have hdvd : spacing (k * one) ∣ k * one := Nat.dvd_of_mod_eq_zero hk.1
  rw [spacing_mul_one (Nat.le_of_not_lt hsmall) hlt] at hdvd
  obtain ⟨c, rfl⟩ := Nat.dvd_of_mul_dvd_mul_right one_pos hdvd
  have hlimit : Number.wholeLimit = 9223372036854775808 := by decide +kernel
  have hlast : lastWhole = 9223372036854774784 := by decide +kernel
  omega

/-- Beyond the last whole number by one, rounding goes back to it. -/
theorem roundRatio_succ_lastWhole : roundRatio ((lastWhole + 1) * one) 1 ≤ lastWhole * one := by decide +kernel

/-- A whole number below `2 ^ 63` stays one when it is shifted by one, even where the shift is absorbed. -/
theorem exists_whole_of_shift {x : Finite} {i k : Int} (hx : x.toUnits = i * one) (hi : i.natAbs < Number.wholeLimit)
    (hk : k.natAbs ≤ 1) :
    ∃ (y : Finite) (j : Int), x.shift k = .finite y ∧ y.toUnits = j * one ∧ j.natAbs < Number.wholeLimit := by
  have hm : Representable (lastWhole * one) := by decide +kernel
  have hrep : Representable (i.natAbs * one) := by
    rw [← magnitude_of_toUnits hx]
    exact x.representable
  have hlast := le_lastWhole hrep hi
  have hround : roundRatio ((i + k).natAbs * one) 1 ≤ lastWhole * one := by
    rcases Nat.lt_or_ge lastWhole (i + k).natAbs with hbeyond | hwithin
    · rw [show (i + k).natAbs = lastWhole + 1 by omega]
      exact roundRatio_succ_lastWhole
    · exact roundRatio_le_of_representable hm (Nat.mul_le_mul_right one hwithin)
  obtain ⟨y, j, hy, hyu, hj⟩ := exists_whole_of_ofInt hm hround
  refine ⟨y, j, ?_, hyu, Nat.lt_of_le_of_lt hj (by decide +kernel)⟩
  rw [Finite.shift, hx, ← Int.add_mul]
  exact hy

/-! ## Which whole numbers are read below `2 ^ 63` -/

theorem roundDiv_mul_right (n d : Nat) {c : Nat} (hc : 0 < c) : roundDiv (n * c) (d * c) = roundDiv n d := by
  have hdouble (r : Nat) : 2 * (r * c) = 2 * r * c := (Nat.mul_assoc ..).symm
  unfold roundDiv
  simp only [Nat.mul_div_mul_right _ _ hc, Nat.mul_mod_mul_right, hdouble, Nat.mul_lt_mul_right hc]

/-- The last 512 whole numbers below `2 ^ 63` are nearer to it than to the one before it that is representable, or as
near, in which case it is the even one. -/
theorem roundRatio_lt_wholeLimit_iff {k : Nat} :
    roundRatio (k * one) 1 < Number.wholeLimit * one ↔ k < Number.wholeLimit - 512 := by
  have hlimit : Number.wholeLimit = 9223372036854775808 := by decide +kernel
  have hlast : lastWhole = 9223372036854774784 := by decide +kernel
  rcases Nat.lt_or_ge lastWhole k with hbeyond | hwithin
  · rcases Nat.lt_or_ge k Number.wholeLimit with hlt | hge
    · have hspacing := spacing_mul_one (Nat.le_trans (by decide +kernel) (Nat.le_of_lt hbeyond)) hlt
      have hround : roundRatio (k * one) 1 = roundDiv k 1024 * 1024 * one := by
        rw [roundRatio_one, hspacing, roundDiv_mul_right _ _ one_pos, Nat.mul_assoc]
      rw [hround, Nat.mul_lt_mul_right one_pos, roundDiv]
      split
      · omega
      · split
        · omega
        · omega
    · refine iff_of_false (Nat.not_lt.2 ?_) (by omega)
      have hpow : twoPow (63 + 1074) = Number.wholeLimit * one := by rw [twoPow_add, Number.wholeLimit, one]
      rw [← hpow]
      refine twoPow_le_roundRatio (by decide) ?_
      rw [hpow]
      exact Nat.mul_le_mul_right one hge
  · have hm : Representable (lastWhole * one) := by decide +kernel
    refine iff_of_true (Nat.lt_of_le_of_lt (roundRatio_le_of_representable hm (Nat.mul_le_mul_right one hwithin)) ?_)
      (by omega)
    exact Nat.mul_lt_mul_of_pos_right (by omega) one_pos

theorem of_ofInt {i : Int} {x : Finite} (h : ofInt i = .finite x) :
    x.negative = decide (i < 0) ∧ x.magnitude = roundRatio (i.natAbs * one) 1 := by
  have hsign : decide (i * (one : Int) < 0) = decide (i < 0) := by
    have hlt := mul_one_lt_mul_one (i := i) (j := 0)
    rw [Int.zero_mul] at hlt
    exact decide_eq_decide.2 hlt
  rw [ofInt, ofUnits, natAbs_mul_one, hsign, ofRatio] at h
  split at h
  · cases h
    exact ⟨rfl, rfl⟩
  · cases h

/-- A whole number is read on its side of zero, also if one is added to both the number and the reading, or taken from
both: up to `2 ^ 53` the reading is the number, and beyond, it is no smaller than that. -/
theorem nonneg_add_iff_of_ofInt {i j k : Int} {x : Finite} (h : ofInt i = .finite x) (hx : x.toUnits = j * one)
    (hk : k.natAbs ≤ 1) : 0 ≤ j + k ↔ 0 ≤ i + k := by
  rcases Nat.le_total i.natAbs wholeReach with hsmall | hlarge
  · obtain ⟨y, hy, hyu⟩ := ofInt_of_small hsmall
    rw [hy] at h
    cases h
    rw [mul_one_inj.1 (hx.symm.trans hyu)]
  · obtain ⟨hnegative, hmagnitude⟩ := of_ofInt h
    have hreach : wholeReach * one ≤ x.magnitude := by
      have hpow : twoPow (53 + 1074) = wholeReach * one := by rw [twoPow_add, wholeReach, one]
      rw [hmagnitude, ← hpow]
      refine twoPow_le_roundRatio (by decide) ?_
      rw [hpow]
      exact Nat.mul_le_mul_right one hlarge
    have hj : wholeReach ≤ j.natAbs := by
      rw [magnitude_of_toUnits hx] at hreach
      exact Nat.le_of_mul_le_mul_right hreach one_pos
    have hsign : j < 0 ↔ i < 0 := by
      have hlt := mul_one_lt_mul_one (i := j) (j := 0)
      have hpos : 0 < x.magnitude := Nat.lt_of_lt_of_le (by decide +kernel) hreach
      rw [Int.zero_mul, ← hx, Finite.toUnits, hnegative] at hlt
      rw [← hlt]
      by_cases hi : i < 0
      · simp [hi, hpos]
      · simp [hi]
    have htwo : 2 ≤ wholeReach := by decide +kernel
    omega

end Binary64

namespace Number

/-- The first magnitude of a number that is read as `2 ^ 63` or more. -/
def readLimit : Number → Nat
  | .integer _ => wholeLimit - 512
  | .float _ => wholeLimit

/-- A number is read as a whole number below `2 ^ 63` if and only if it is a whole number below its limit. -/
theorem exists_whole_reading_iff {n : Number} {k : Int} (hk : k.natAbs ≤ 1) :
    (∃ (x : Binary64.Finite) (j : Int), n.toBinary64 = .finite x ∧ x.toUnits = j * Binary64.one ∧
      j.natAbs < wholeLimit ∧ 0 ≤ j + k) ↔
    ∃ i : Int, n.toUnits = i * Binary64.one ∧ i.natAbs < n.readLimit ∧ 0 ≤ i + k := by
  cases n with
  | float x =>
    constructor
    · rintro ⟨y, j, hy, hyu, hj, hjk⟩
      cases hy
      exact ⟨j, hyu, hj, hjk⟩
    · rintro ⟨i, hi, hlt, hik⟩
      exact ⟨x, i, rfl, hi, hlt, hik⟩
  | integer i =>
    have hmagnitude {x : Binary64.Finite} {j : Int} (hx : Binary64.ofInt i = .finite x)
        (hxu : x.toUnits = j * Binary64.one) : j.natAbs < wholeLimit ↔ i.natAbs < wholeLimit - 512 := by
      rw [← Binary64.roundRatio_lt_wholeLimit_iff, ← (Binary64.of_ofInt hx).2, Binary64.magnitude_of_toUnits hxu,
        Nat.mul_lt_mul_right Binary64.one_pos]
    constructor
    · rintro ⟨x, j, hx, hxu, hj, hjk⟩
      exact ⟨i, rfl, (hmagnitude hx hxu).1 hj, (Binary64.nonneg_add_iff_of_ofInt hx hxu hk).1 hjk⟩
    · rintro ⟨i', hi', hlt, hik⟩
      obtain rfl : i = i' := Binary64.mul_one_inj.1 hi'
      have hm : Binary64.Representable (wholeLimit * Binary64.one) := by decide +kernel
      obtain ⟨x, j, hx, hxu, -⟩ := Binary64.exists_whole_of_ofInt hm
        (Nat.le_of_lt (Binary64.roundRatio_lt_wholeLimit_iff.2 hlt))
      exact ⟨x, j, hx, hxu, (hmagnitude hx hxu).2 hlt, (Binary64.nonneg_add_iff_of_ofInt hx hxu hk).2 hik⟩

end Number

end VarSchema
