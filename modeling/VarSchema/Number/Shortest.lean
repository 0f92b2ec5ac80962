import VarSchema.Number.Binary64

/-!
# The fewest decimal digits that read back

* `Decimal` : a coefficient and a power of ten;
* `Decimal.interval x` : the ends of the interval of reals that round to a magnitude, in quarters of a
  unit; the ends belong to it when the magnitude is an even multiple of its spacing;
* `Decimal.shortest x` : on the coarsest decimal grid with a point in that interval, the point nearest
  to the magnitude, of two equally near ones the even one.

The grids are tried from one digit on. A grid has a point in the interval only if one of the two
neighbours of the magnitude on that grid is in it, so no other point needs a test, and seventeen digits
always suffice.
-/

namespace VarSchema

/-- The number `coefficient * 10 ^ exponent`. -/
structure Decimal where
  coefficient : Nat
  exponent : Int
deriving DecidableEq

namespace Decimal

def width (n : Nat) : Nat := (Nat.toDigits 10 n).length

/-- The power of ten of the leading digit of `n / d`, for positive `n` and `d`. -/
def leading (n d : Nat) : Int :=
  if d ≤ n then width (n / d) - 1
  else -(width ((d + n - 1) / n - 1) : Int)

/-- Moves trailing zeros of the coefficient into the exponent, at most `fuel` of them. -/
def trimmed : Nat → Decimal → Decimal
  | 0, x => x
  | fuel + 1, x =>
    if x.coefficient ≠ 0 ∧ x.coefficient % 10 = 0 then
      trimmed fuel ⟨x.coefficient / 10, x.exponent + 1⟩
    else x

/-- The reals that round to a magnitude: the ends in quarters of a unit, and whether they belong to it.
Below a power of two the spacing is half of that above. -/
structure Interval where
  low : Nat
  high : Nat
  closed : Bool

def interval (n : Nat) : Interval :=
  let s := Binary64.spacing n
  let below := if n = twoPow n.log2 ∧ 1 < s then s else 2 * s
  ⟨4 * n - below, 4 * n + 2 * s, n / s % 2 == 0⟩

/-- The point `c * num / den` quarters is in the interval. -/
def Interval.has (i : Interval) (c num den : Nat) : Bool :=
  if i.closed then decide (i.low * den ≤ c * num ∧ c * num ≤ i.high * den)
  else decide (i.low * den < c * num ∧ c * num < i.high * den)

/-- The neighbour of `n` units on the grid of `10 ^ p` that reads back, the nearer one if both do. -/
def onGrid (i : Interval) (n : Nat) (p : Int) : Option Nat :=
  let num := tenPow p.toNat * Binary64.one
  let den := tenPow (-p).toNat
  let c := n * den / num
  match i.has c (4 * num) den, i.has (c + 1) (4 * num) den with
  | true, false => some c
  | false, true => some (c + 1)
  | false, false => none
  | true, true => some (Binary64.roundDiv (n * den) num)

/-- The first grid with a point that reads back, from `digits` digits on. -/
def search (i : Interval) (n : Nat) (lead : Int) : Nat → Nat → Decimal
  | 0, digits => ⟨Binary64.roundDiv (n * tenPow (digits - 1 - lead).toNat)
      (tenPow (lead - (digits - 1)).toNat * Binary64.one), lead - (digits - 1)⟩
  | fuel + 1, digits =>
    match onGrid i n (lead - (digits - 1)) with
    | some c => ⟨c, lead - (digits - 1)⟩
    | none => search i n lead fuel (digits + 1)

/-- The shortest decimal that rounds to a magnitude; zero is `0 * 10 ^ 0`. -/
def shortest (n : Nat) : Decimal :=
  if n = 0 then ⟨0, 0⟩
  else trimmed 20 (search (interval n) n (leading n Binary64.one) 16 1)

end Decimal

end VarSchema
