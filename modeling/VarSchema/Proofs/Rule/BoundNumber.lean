import VarSchema.Proofs.Rule.BoundValues
import VarSchema.Proofs.Schema.Tightest

/-!
# The number of a bound

* `Number.ofFinite_eq_integer_iff` : a binary64 is written as an integer if and only if it is whole and below `2 ^ 63`
  in magnitude; `Number.ofFinite_cases` : it is written as what the conversion to 64 bits gives, or as itself;
* `Binary64.Finite.unsignedZero`, `Number.toBinary64_ofFinite` : it is read back as it was, but for the sign of zero;
* `Range.boundJson_exact` : so no bound changes its value when it is written, and only what is not finite has none.
-/

namespace VarSchema

namespace Number

/-! ## Integers -/

theorem ofFinite_eq_integer_iff {x : Binary64.Finite} {i : Int} :
    ofFinite x = .integer i ↔ x.toUnits = i * Binary64.one ∧ i.natAbs < wholeLimit := by
  constructor
  · intro h
    have hunits : x.toUnits = i * Binary64.one := by rw [← toUnits_ofFinite, h, toUnits_integer]
    refine ⟨hunits, ?_⟩
    unfold ofFinite at h
    split at h
    · next hwhole =>
      rw [Bool.and_eq_true, decide_eq_true_iff, Binary64.magnitude_of_toUnits hunits] at hwhole
      exact Nat.lt_of_mul_lt_mul_right hwhole.2
    · cases h
  · exact fun h => ofFinite_eq_integer h.1 h.2

theorem ofFinite_cases (x : Binary64.Finite) :
    (ofFinite x = .integer x.toWord ∧ x.toWord = x.toInt) ∨ ofFinite x = .float x := by
  refine (ofFinite_eq_toWord x).imp_left fun ⟨hinteger, hunits⟩ => ⟨hinteger, ?_⟩
  have hone : (Binary64.one : Int) ≠ 0 := by have := Binary64.one_pos; omega
  rw [Binary64.Finite.toInt, ← hunits, Int.mul_tdiv_cancel _ hone]

/-! ## Reading back -/

/-- The number itself, and of both zeros the one without a sign. -/
def unsignedZero (x : Binary64.Finite) : Binary64.Finite :=
  if x.magnitude = 0 then ⟨false, 0, Binary64.representable_zero⟩ else x

/-- A binary64 is read back as it was: its value determines it, but for the sign of zero. -/
theorem toBinary64_ofFinite (x : Binary64.Finite) : (ofFinite x).toBinary64 = .finite (unsignedZero x) := by
  unfold unsignedZero
  split
  · next hzero =>
    have hunits : x.toUnits = (0 : Int) * Binary64.one := by
      rw [Int.zero_mul, ← Int.natAbs_eq_zero, Binary64.natAbs_toUnits, hzero]
    rw [ofFinite_eq_integer hunits (by decide +kernel)]
    decide +kernel
  · next hne =>
    obtain ⟨y, hy, hyu⟩ := isExact_iff.1 (isExact_ofFinite x)
    rw [toUnits_ofFinite] at hyu
    rw [hy, Binary64.Finite.eq_of_toUnits_eq hyu.symm hne]

end Number

namespace Range

theorem boundJson_eq_null_iff {v : Binary64} : boundJson v = .null ↔ v = .nan ∨ ∃ negative, v = .infinite negative := by
  cases v with
  | finite x => simp [boundJson_finite]
  | infinite negative => exact iff_of_true rfl (.inr ⟨negative, rfl⟩)
  | nan => exact iff_of_true rfl (.inl rfl)

/-- **A finite binary64 is written as a JSON number of its value, which is read back as it was, but for the sign of
zero. It is an integer if and only if the binary64 is whole and below `2 ^ 63` in magnitude, and then what the
conversion to 64 bits gives, which does not stop at their limits; otherwise it is the binary64. Only infinities and
`nan` are written as null.** -/
theorem boundJson_exact :
    (∀ x : Binary64.Finite, ∃ n : Number, boundJson (.finite x) = .num n ∧ n.toUnits = x.toUnits ∧
      n.toBinary64 = .finite (Number.unsignedZero x) ∧
      (∀ i : Int, n = .integer i ↔ x.toUnits = i * Binary64.one ∧ i.natAbs < Number.wholeLimit) ∧
      ((n = .integer x.toWord ∧ x.toWord = x.toInt) ∨ n = .float x)) ∧
    ∀ v : Binary64, boundJson v = .null ↔ v = .nan ∨ ∃ negative, v = .infinite negative := by
  refine ⟨fun x => ⟨.ofFinite x, boundJson_finite x, Number.toUnits_ofFinite x, Number.toBinary64_ofFinite x,
    fun i => Number.ofFinite_eq_integer_iff, Number.ofFinite_cases x⟩, fun v => boundJson_eq_null_iff⟩

/-- The limit is how the last whole number of 64 bits is read, and on either side of zero it is kept as a float. -/
example : Binary64.ofInt (Number.wholeLimit - 1) = Binary64.ofInt Number.wholeLimit ∧
    ∀ negative, let x : Binary64.Finite := ⟨negative, Number.wholeLimit * Binary64.one, by decide +kernel⟩
      boundJson (.finite x) = .num (.float x) := by
  decide +kernel

end Range

end VarSchema
