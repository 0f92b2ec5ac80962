import VarSchema.Number.Binary64

/-!
# JSON numbers

A JSON number is a whole number or a binary64.

* `Number.toUnits` : the exact value, in units of the least positive binary64; equality and order of
  numbers are those of their units, so `1` and `1.0` are equal and large whole numbers stay exact;
* `Number.toBinary64` : the binary64 reading;
* `Number.ofBinary64?` : a finite binary64 as a JSON number, whole below `2 ^ 63` and else a float.
-/

namespace VarSchema

/-- A JSON number: whole, or a finite binary64. -/
inductive Number where
  | integer (n : Int)
  | float (x : Binary64.Finite)
deriving DecidableEq

namespace Number

instance : Inhabited Number := ⟨.integer 0⟩

/-- The exact value in units of `2 ^ -1074`. -/
def toUnits : Number → Int
  | .integer n => n * Binary64.one
  | .float x => x.toUnits

/-- The nearest binary64. -/
def toBinary64 : Number → Binary64
  | .integer n => .ofInt n
  | .float x => .finite x

def equal (a b : Number) : Bool := a.toUnits == b.toUnits

def less (a b : Number) : Bool := a.toUnits < b.toUnits

/-- The first magnitude that is kept as a float, `2 ^ 63`. -/
def wholeLimit : Nat := twoPow 63

/-- The first whole number that 64 bits do not hold. -/
def wordLimit : Nat := twoPow 64

/-- The whole numbers that a JSON text can hold as such. -/
def InRange : Number → Prop
  | .integer n => -(wholeLimit : Int) ≤ n ∧ n < wordLimit
  | .float _ => True

/-- A finite binary64 as a JSON number: an integer when it is whole and below `2 ^ 63` in magnitude. -/
def ofFinite (x : Binary64.Finite) : Number :=
  if x.isWhole && decide (x.magnitude < wholeLimit * Binary64.one) then .integer x.toInt
  else .float x

/-- A binary64 as a JSON number; infinities and `nan` have none. -/
def ofBinary64? : Binary64 → Option Number
  | .finite x => some (ofFinite x)
  | _ => none

end Number

end VarSchema
