import VarSchema.Number.Power

/-!
# Binary64 numbers as exact data

Every finite binary64 is a whole multiple of `2 ^ -1074`, the least positive one. A finite number is
kept as its sign and the count of those units, so that order, equality and arithmetic before rounding
are facts of `Nat` and `Int`.

* `Binary64.one` : the number of units in 1; `spacing n` : the distance of neighbours around `n` units;
* `Binary64.Finite` : a sign and a representable magnitude; `Finite.toUnits` : its exact value;
* `Binary64` : finite, infinite, or not a number;
* `Binary64.ofRatio` : the nearest number to a ratio of units, a tie going to the even neighbour, and
  infinite beyond the largest finite number; `ofUnits`, `ofInt`, `Finite.mul?`, `Finite.div?` and
  `Finite.shift` round once by it;
* `Binary64.lt` : the order, in which no comparison with `nan` holds.
-/

namespace VarSchema

namespace Binary64

/-- The number of units in 1. -/
def one : Nat := twoPow 1074

/-- The first magnitude beyond the finite ones, `2 ^ 1024`. -/
def limit : Nat := twoPow 2098

/-- The distance of neighbouring magnitudes around `n` units: 53 leading bits are kept. -/
def spacing (n : Nat) : Nat := twoPow (n.log2 - 52)

/-- A magnitude is representable when it has at most 53 significant bits and is below the limit. -/
def Representable (n : Nat) : Prop := n % spacing n = 0 ∧ n < limit

instance (n : Nat) : Decidable (Representable n) := inferInstanceAs (Decidable (_ ∧ _))

/-- A finite binary64: a sign and a magnitude in units. Zero has both signs. -/
structure Finite where
  negative : Bool
  magnitude : Nat
  representable : Representable magnitude
deriving DecidableEq

end Binary64

/-- A binary64 number, with one `nan`. -/
inductive Binary64 where
  | finite (x : Binary64.Finite)
  | infinite (negative : Bool)
  | nan
deriving DecidableEq

namespace Binary64

theorem representable_zero : Representable 0 := by decide +kernel

instance : Inhabited Finite := ⟨⟨false, 0, representable_zero⟩⟩

def Finite.toUnits (x : Finite) : Int := if x.negative then -(x.magnitude : Int) else x.magnitude

def Finite.isWhole (x : Finite) : Bool := x.magnitude % one == 0

def Finite.toInt (x : Finite) : Int := x.toUnits.tdiv one

/-! ## Rounding -/

/-- The whole number nearest to `n / d`, of two equally near ones the even one. -/
def roundDiv (n d : Nat) : Nat :=
  let q := n / d
  let r := n % d
  if 2 * r < d then q else if d < 2 * r then q + 1 else q + q % 2

/-- The magnitude nearest to `n / d` units among those of at most 53 bits, ties to even. -/
def roundRatio (n d : Nat) : Nat :=
  let s := spacing (n / d)
  roundDiv n (d * s) * s

/-- The number nearest to `± n / d` units. -/
def ofRatio (negative : Bool) (n d : Nat) : Binary64 :=
  if h : Representable (roundRatio n d) then .finite ⟨negative, roundRatio n d, h⟩
  else .infinite negative

def ofUnits (u : Int) : Binary64 := ofRatio (u < 0) u.natAbs 1

def ofInt (n : Int) : Binary64 := ofUnits (n * one)

/-- `x + k`, rounded. -/
def Finite.shift (x : Finite) (k : Int) : Binary64 := ofUnits (x.toUnits + k * one)

/-- The rounded product; `none` when it is not finite. -/
def Finite.mul? (x y : Finite) : Option Finite :=
  match ofRatio (x.negative != y.negative) (x.magnitude * y.magnitude) one with
  | .finite z => some z
  | _ => none

/-- The rounded quotient; `none` when the divisor is zero or the quotient is not finite. -/
def Finite.div? (x y : Finite) : Option Finite :=
  if y.magnitude = 0 then none else
  match ofRatio (x.negative != y.negative) (x.magnitude * one) y.magnitude with
  | .finite z => some z
  | _ => none

def Finite.neg (x : Finite) : Finite := { x with negative := !x.negative }

/-! ## Order -/

/-- Strictly below; both zeros are equal and `nan` is below nothing. -/
def lt : Binary64 → Binary64 → Bool
  | .finite x, .finite y => x.toUnits < y.toUnits
  | .finite _, .infinite n => !n
  | .infinite m, .finite _ => m
  | .infinite m, .infinite n => m && !n
  | _, _ => false

def isNegative : Binary64 → Bool
  | .finite x => x.toUnits < 0
  | .infinite n => n
  | .nan => false

/-! ## Small facts -/

theorem spacing_pos (n : Nat) : 0 < spacing n := twoPow_pos _

theorem one_pos : 0 < one := twoPow_pos _

@[simp] theorem roundDiv_mul (q : Nat) {d : Nat} (h : 0 < d) : roundDiv (q * d) d = q := by
  simp [roundDiv, Nat.mul_div_cancel _ h, Nat.mul_mod_left, h]

/-- A magnitude of at most 53 bits rounds to itself. -/
theorem roundRatio_of_representable {n : Nat} (h : Representable n) : roundRatio n 1 = n := by
  have hn : n = n / spacing n * spacing n := (Nat.div_mul_cancel (Nat.dvd_of_mod_eq_zero h.1)).symm
  have e : roundDiv n (spacing n) = n / spacing n := by
    have := roundDiv_mul (n / spacing n) (spacing_pos n)
    rwa [← hn] at this
  rw [roundRatio, Nat.div_one, Nat.one_mul, e, ← hn]

/-- A representable number of units is kept exactly. -/
theorem ofRatio_of_representable (negative : Bool) {n : Nat} (h : Representable n) :
    ofRatio negative n 1 = .finite ⟨negative, n, h⟩ := by
  have e := roundRatio_of_representable h
  rw [ofRatio, dif_pos (e.symm ▸ h)]
  simp only [e]

end Binary64

end VarSchema
