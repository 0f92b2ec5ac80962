import VarSchema.Number.Basic
import VarSchema.Number.Shortest

/-!
# The text of numbers

* `Layout` : which powers of ten are written positionally, and whether a whole value keeps `.0`;
* `Layout.json` : JSON texts, where `1.0` and `1e+16` show that a number is no integer;
* `Layout.plain` : explanations, where a number has neither exponent nor `.0`;
* `Number.text` : a number in a JSON text.
-/

namespace VarSchema

/-- How the shortest digits of a binary64 are laid out. -/
structure Layout where
  /-- The leading powers of ten that are written positionally; all of them if absent. -/
  positional : Option (Int × Int)
  /-- Whether a whole value ends in `.0`. -/
  pointZero : Bool

namespace Layout

/-- JSON texts are positional from `1e-5` to below `1e16`, and a whole value ends in `.0`. -/
def json : Layout := ⟨some (-5, 15), true⟩

/-- Explanations are always positional. -/
def plain : Layout := ⟨none, false⟩

def zeros (n : Nat) : String := String.ofList (List.replicate n '0')

def positionalText (layout : Layout) (x : Decimal) : String :=
  let digits := toString x.coefficient
  let width : Int := digits.length
  if 0 ≤ x.exponent then
    digits ++ zeros x.exponent.toNat ++ (if layout.pointZero then ".0" else "")
  else if 0 < width + x.exponent then
    let whole := (width + x.exponent).toNat
    String.ofList (digits.toList.take whole) ++ "." ++ String.ofList (digits.toList.drop whole)
  else
    "0." ++ zeros (-(width + x.exponent)).toNat ++ digits

/-- One digit, the others behind a point, and a signed power of ten. -/
def scientificText (x : Decimal) (lead : Int) : String :=
  let digits := (toString x.coefficient).toList
  let fraction := digits.drop 1
  String.ofList (digits.take 1) ++
    (if fraction.isEmpty then "" else "." ++ String.ofList fraction) ++
    "e" ++ (if lead < 0 then "-" else "+") ++ toString lead.natAbs

def text (layout : Layout) (x : Binary64.Finite) : String :=
  let d := Decimal.shortest x.magnitude
  let lead : Int := d.exponent + (toString d.coefficient).length - 1
  let inside := match layout.positional with
    | none => true
    | some (lo, hi) => decide (lo ≤ lead) && decide (lead ≤ hi)
  (if x.negative then "-" else "") ++
    (if inside then layout.positionalText d else scientificText d lead)

end Layout

def Binary64.text : Binary64 → String
  | .finite x => Layout.plain.text x
  | .infinite n => if n then "-inf" else "inf"
  | .nan => "NaN"

def Number.text : Number → String
  | .integer n => toString n
  | .float x => Layout.json.text x

end VarSchema
